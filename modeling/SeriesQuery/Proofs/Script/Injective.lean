import SeriesQuery.Proofs.Query.Literals
import SeriesQuery.Proofs.Script.Pieces

/-!
# A script determines its query

Texts stand in a script as they are, keys of filters even without quotes. Two valid queries whose texts
hold no double quote still have the same script only if they agree, up to the settings of an aggregation
that is not enabled (`render_eq_iff`). Their scripts consist of the same pieces, and the pieces give back
the bounds, both lists and the window.
-/

namespace SeriesQuery

namespace Query

/-- No text of the query that its script takes over unchecked holds a double quote. -/
structure QuoteFree (q : Query) : Prop where
  bucket : '\"' ∉ q.bucket.toList
  measurement : '\"' ∉ q.measurement.toList
  fields : ∀ f ∈ q.fields, '\"' ∉ f.toList
  filters : ∀ f ∈ q.filters, '\"' ∉ f.key.toList ∧ '\"' ∉ f.value.toList

/-- The queries differ at most in the settings of an aggregation that neither of them enables. -/
structure Agrees (p q : Query) : Prop where
  bucket : p.bucket = q.bucket
  measurement : p.measurement = q.measurement
  fields : p.fields = q.fields
  filters : p.filters = q.filters
  start : p.range.start = q.range.start
  stop : p.range.stop = q.range.stop
  enabled : p.aggregation.enabled = q.aggregation.enabled
  every : p.aggregation.enabled = true → p.aggregation.every = q.aggregation.every
  reducer : p.aggregation.enabled = true → p.aggregation.reducer = q.aggregation.reducer
  createEmpty : p.aggregation.enabled = true →
    p.aggregation.createEmpty = q.aggregation.createEmpty

end Query

namespace Script

open Query

/-! ## Clean pieces -/

/-- A chain of texts without double quotes has clean pieces. -/
theorem isClean_of_mem_chain {lead separator : String} {items : List (String × String)} {p : Piece}
    (hp : p ∈ chain lead separator items) (hlead : '\"' ∉ lead.toList)
    (hseparator : '\"' ∉ separator.toList)
    (hitems : ∀ i ∈ items, '\"' ∉ i.1.toList ∧ '\"' ∉ i.2.toList) : p.IsClean := by
  induction items generalizing lead with
  | nil => exact absurd hp List.not_mem_nil
  | cons item rest ih =>
      obtain ⟨hitem, hrest⟩ := List.forall_mem_cons.1 hitems
      rcases List.mem_cons.1 hp with rfl | hp
      · refine ⟨?_, hitem.2⟩
        simp only [String.toList_append, List.mem_append, not_or]
        exact ⟨hlead, hitem.1⟩
      · exact ih hp hseparator hrest

/-- A text has no double quote if neither part has one. -/
theorem quote_not_mem_append {s t : String} :
    '\"' ∉ (s ++ t).toList ↔ '\"' ∉ s.toList ∧ '\"' ∉ t.toList := by
  rw [String.toList_append, List.mem_append, not_or]

/-- A separator does not occur in the texts of a valid query that stand without quotes. -/
theorem not_mem_of_isSeparator {q : Query} {current : Instant} (h : q.validate current = .ok ())
    {text : String} (htext : text ∈ q.bareTexts) {c : Char} (hc : isSeparator c = true) :
    c ∉ text.toList := by
  intro hmem
  rw [isSeparator_eq_false h htext c hmem] at hc
  exact nomatch hc

/-- The line of the window holds no double quote. -/
theorem quote_not_mem_line {q : Query} {current : Instant} (h : q.validate current = .ok ()) :
    '\"' ∉ (line (window? q.aggregation)).toList := by
  unfold window?
  split
  · next henabled =>
    have hevery : '\"' ∉ q.aggregation.every.toList :=
      not_mem_of_isSeparator h (mem_bareTexts.2 (.inr (.inr ⟨henabled, .inl rfl⟩))) (by decide)
    have hreducer : '\"' ∉ q.aggregation.reducer.toList :=
      not_mem_of_isSeparator h (mem_bareTexts.2 (.inr (.inr ⟨henabled, .inr rfl⟩))) (by decide)
    have hempty : '\"' ∉ (if q.aggregation.createEmpty then "true" else "false").toList := by
      split <;> decide
    simp only [line, quote_not_mem_append, hevery, hreducer, hempty, not_false_eq_true, and_true]
    decide
  · decide

/-- The stage of the range holds no double quote. -/
theorem quote_not_mem_range {q : Query} {current : Instant} (h : q.validate current = .ok ()) :
    '\"' ∉ (range q.range).toList := by
  have hstart : '\"' ∉ q.range.start.toList :=
    not_mem_of_isSeparator h (mem_bareTexts.2 (.inl rfl)) (by decide)
  have hstop : '\"' ∉ q.range.stop.toList :=
    not_mem_of_isSeparator h (mem_bareTexts.2 (.inr (.inl rfl))) (by decide)
  unfold range
  simp only [quote_not_mem_append, hstart, hstop, not_false_eq_true, and_true]
  decide

/-- The pieces of a valid query without double quotes are clean. -/
theorem isClean_of_mem_pieces {q : Query} {current : Instant} (h : q.validate current = .ok ())
    (hfree : q.QuoteFree) : ∀ p ∈ pieces q, p.IsClean := by
  have hrange := quote_not_mem_range h
  have hline := quote_not_mem_line h
  have hlabel : ∀ {column : String}, '\"' ∉ column.toList → '\"' ∉ (columnLabel column).toList := by
    intro column hcolumn
    simp only [columnLabel, quote_not_mem_append, hcolumn, not_false_eq_true, and_true]
    decide
  intro p hp
  simp only [pieces, closing, List.mem_append] at hp
  -- bucket, measurement, fields, filters, and the columns of the last two stages
  rcases hp with (((hp | hp) | hp) | hp) | hp | hp
  · refine isClean_of_mem_chain hp (by decide) (by decide) (List.forall_mem_singleton.2 ?_)
    exact ⟨(by decide : '\"' ∉ "".toList), hfree.bucket⟩
  · refine isClean_of_mem_chain hp ?_ (by decide) (List.forall_mem_singleton.2 ?_)
    · simp only [quote_not_mem_append, hrange, not_false_eq_true, and_true]
      decide
    · exact ⟨hlabel (by decide), hfree.measurement⟩
  · refine isClean_of_mem_chain hp (by decide) (by decide) (List.forall_mem_map.2 ?_)
    exact fun f hf => ⟨hlabel (by decide), hfree.fields f hf⟩
  · refine isClean_of_mem_chain hp (by decide) (by decide) (List.forall_mem_map.2 ?_)
    exact fun f hf => ⟨hlabel (hfree.filters f hf).1, (hfree.filters f hf).2⟩
  · refine isClean_of_mem_chain hp ?_ (by decide) (by decide)
    simp only [quote_not_mem_append, hline, not_false_eq_true, and_true]
    decide
  · exact isClean_of_mem_chain hp (by decide) (by decide) (by decide)

/-! ## Reading a chain back -/

/-- The pieces cannot be taken for more of a chain. -/
def Stops (lead separator : String) (ps : List Piece) : Prop :=
  ∀ p ∈ ps.head?, ¬ lead.toList <+: p.bare ∧ ¬ separator.toList <+: p.bare

/-- A chain that goes on does not stop. -/
theorem not_stops_chain_cons {lead separator : String} {item : String × String}
    {rest : List (String × String)} {ps : List Piece} :
    ¬ Stops lead separator (chain lead separator (item :: rest) ++ ps) := by
  intro h
  refine (h ⟨(lead ++ item.1).toList, item.2.toList⟩ rfl).1 ?_
  rw [String.toList_append]
  exact List.prefix_append _ _

/-- Where a chain stops, one that has begun stops too. -/
theorem Stops.separator {lead separator : String} {ps : List Piece} (h : Stops lead separator ps) :
    Stops separator separator ps := fun p hp => ⟨(h p hp).2, (h p hp).2⟩

/-- Two chains with an item are compared item by item. -/
theorem chain_cons_eq_iff {lead lead' separator : String} {a b : String × String}
    {as bs : List (String × String)} {ps qs : List Piece} :
    chain lead separator (a :: as) ++ ps = chain lead' separator (b :: bs) ++ qs ↔
      lead ++ a.1 = lead' ++ b.1 ∧ a.2 = b.2 ∧
        chain separator separator as ++ ps = chain separator separator bs ++ qs := by
  simp only [chain, List.cons_append, List.cons.injEq, Piece.mk.injEq, String.toList_inj, and_assoc]

/-- With the same lead, the first items have to agree. -/
theorem chain_cons_inj {lead separator : String} {a b : String × String}
    {as bs : List (String × String)} {ps qs : List Piece} :
    chain lead separator (a :: as) ++ ps = chain lead separator (b :: bs) ++ qs ↔
      a = b ∧ chain separator separator as ++ ps = chain separator separator bs ++ qs := by
  rw [chain_cons_eq_iff, String.append_right_inj, Prod.ext_iff, and_assoc]

/-- Chains of one item are compared by their leads together with their labels. -/
theorem chain_singleton_eq_iff {lead lead' separator : String} {a b : String × String}
    {ps qs : List Piece} :
    chain lead separator [a] ++ ps = chain lead' separator [b] ++ qs ↔
      lead ++ a.1 = lead' ++ b.1 ∧ a.2 = b.2 ∧ ps = qs := chain_cons_eq_iff

/-- The items of a chain and the pieces behind it are read off from the pieces. -/
theorem chain_append_inj {lead separator : String} {as bs : List (String × String)}
    {ps qs : List Piece} (hps : Stops lead separator ps) (hqs : Stops lead separator qs)
    (h : chain lead separator as ++ ps = chain lead separator bs ++ qs) : as = bs ∧ ps = qs := by
  -- behind its first item a chain goes on with the separator in place of the lead
  induction as generalizing lead bs with
  | nil =>
      cases bs with
      | nil => exact ⟨rfl, h⟩
      | cons b bs =>
          have hcons : ps = chain lead separator (b :: bs) ++ qs := h
          exact absurd (hcons ▸ hps) not_stops_chain_cons
  | cons a as ih =>
      cases bs with
      | nil =>
          have hcons : chain lead separator (a :: as) ++ ps = qs := h
          exact absurd (hcons ▸ hqs) not_stops_chain_cons
      | cons b bs =>
          obtain ⟨rfl, hrest⟩ := chain_cons_inj.1 h
          obtain ⟨rfl, hpieces⟩ := ih hps.separator hqs.separator hrest
          exact ⟨rfl, hpieces⟩

/-- A chain that is not empty may stand before one more piece that starts like its first. -/
theorem chain_append_inj_of_ne_nil {lead separator : String} {as bs : List (String × String)}
    {ps qs : List Piece} (hps : Stops separator separator ps) (hqs : Stops separator separator qs)
    (has : as ≠ []) (hbs : bs ≠ [])
    (h : chain lead separator as ++ ps = chain lead separator bs ++ qs) : as = bs ∧ ps = qs := by
  obtain ⟨a, as, rfl⟩ := List.exists_cons_of_ne_nil has
  obtain ⟨b, bs, rfl⟩ := List.exists_cons_of_ne_nil hbs
  obtain ⟨rfl, hrest⟩ := chain_cons_inj.1 h
  obtain ⟨rfl, hpieces⟩ := chain_append_inj hps hqs hrest
  exact ⟨rfl, hpieces⟩

/-- A text has no two prefixes of which neither starts the other. -/
theorem not_prefix_of_prefix {as bs xs : List Char} (h : as <+: xs) (hab : ¬ as <+: bs)
    (hba : ¬ bs <+: as) : ¬ bs <+: xs :=
  fun hb => (List.prefix_or_prefix_of_prefix h hb).elim hab hba

/-- The stage behind the filters is called `aggregateWindow` or `group`. -/
theorem not_prefix_closing (a : Aggregation) {bs : List Char}
    (hwindow : ¬ ")\n |> a".toList <+: bs ∧ ¬ bs <+: ")\n |> a".toList)
    (hgroup : ¬ ")\n |> g".toList <+: bs ∧ ¬ bs <+: ")\n |> g".toList) :
    ¬ bs <+: (")" ++ "\n" ++ line (window? a) ++ " |> group(columns: [" ++ "").toList := by
  -- the letter behind the pipe is enough to tell the stages apart
  unfold window?
  split
  · refine not_prefix_of_prefix ?_ hwindow.1 hwindow.2
    have hsplit : ")" ++ "\n" ++ " |> aggregateWindow(every: " =
        ")\n |> a" ++ "ggregateWindow(every: " := by decide
    simp only [line, ← String.append_assoc, hsplit]
    simp only [String.append_assoc, String.toList_append, List.prefix_append]
  · refine not_prefix_of_prefix ?_ hgroup.1 hgroup.2
    have hsplit : ")" ++ "\n" ++ "" ++ " |> group(columns: [" ++ "" =
        ")\n |> g" ++ "roup(columns: [" := by decide
    rw [line, hsplit, String.toList_append]
    exact List.prefix_append _ _

/-- What stands behind the filters is not one more filter. -/
theorem stops_closing (a : Aggregation) : Stops nextFilter " and " (closing a) := by
  intro p hp
  obtain rfl := Option.mem_some.1 hp
  exact ⟨not_prefix_closing a (by decide) (by decide), not_prefix_closing a (by decide) (by decide)⟩

/-- What stands behind the fields is not one more field. -/
theorem stops_filters (filters : List TagFilter) (a : Aggregation) :
    Stops " or " " or "
      (chain nextFilter " and " (filters.map fun f => (columnLabel f.key, f.value)) ++ closing a) := by
  intro p hp
  suffices hor : ¬ " or ".toList <+: p.bare from ⟨hor, hor⟩
  cases filters with
  | nil =>
      obtain rfl := Option.mem_some.1 hp
      exact not_prefix_closing a (by decide) (by decide)
  | cons f rest =>
      obtain rfl := Option.mem_some.1 hp
      have hnext : nextFilter.toList <+: (nextFilter ++ columnLabel f.key).toList := by
        rw [String.toList_append]
        exact List.prefix_append _ _
      exact not_prefix_of_prefix hnext (by decide) (by decide)

/-! ## Reading a stage back -/

/-- The stage of a range tells both of its bounds. -/
theorem range_inj {r r' : TimeRange} (hr : ',' ∉ r.start.toList) (hr' : ',' ∉ r'.start.toList) :
    range r = range r' ↔ r.start = r'.start ∧ r.stop = r'.stop := by
  have hstop : ", stop: ".toList = ',' :: " stop: ".toList := by decide
  rw [← String.toList_inj]
  unfold range
  simp only [String.toList_append, List.append_assoc, hstop, List.cons_append,
    List.append_right_inj, Text.append_cons_inj hr hr', List.append_left_inj, String.toList_inj]

/-- The settings of an enabled aggregation hold no comma. -/
def CommaFree (a : Aggregation) : Prop :=
  a.enabled = true → ',' ∉ a.every.toList ∧ ',' ∉ a.reducer.toList

/-- The text of a truth value tells the value. -/
theorem createEmpty_text_inj {a b : Bool} :
    (if a then "true" else "false") = (if b then "true" else "false") ↔ a = b := by
  cases a <;> cases b <;> decide

/-- The line of the window tells whether there is one, and its settings. -/
theorem line_window_inj {a b : Aggregation} (ha : CommaFree a) (hb : CommaFree b) :
    line (window? a) = line (window? b) ↔
      a.enabled = b.enabled ∧ (a.enabled = true →
        a.every = b.every ∧ a.reducer = b.reducer ∧ a.createEmpty = b.createEmpty) := by
  have hne : ∀ stage : String, stage ++ "\n" ≠ "" := by
    intro stage h
    have := congrArg String.toList h
    simp at this
  have hfn : ", fn: ".toList = ',' :: " fn: ".toList := by decide
  have hempty : ", createEmpty: ".toList = ',' :: " createEmpty: ".toList := by decide
  unfold window?
  cases ea : a.enabled with
  | false =>
      cases eb : b.enabled with
      | false => simp
      | true => simp [line, (hne _).symm]
  | true =>
      cases eb : b.enabled with
      | false => simp [line, hne]
      | true =>
          -- the first comma behind each setting ends it
          obtain ⟨hevery, hreducer⟩ := ha ea
          obtain ⟨hevery', hreducer'⟩ := hb eb
          rw [← String.toList_inj]
          simp only [if_true, line, String.toList_append, List.append_assoc, hfn, hempty,
            List.cons_append, List.append_right_inj, Text.append_cons_inj hevery hevery',
            Text.append_cons_inj hreducer hreducer', List.append_left_inj, String.toList_inj,
            createEmpty_text_inj, true_and, true_implies]

/-- The last pieces tell the line of the window. -/
theorem line_eq_of_closing_eq {a b : Aggregation} (h : closing a = closing b) :
    line (window? a) = line (window? b) := by
  have hlead := (chain_cons_eq_iff.1 h).1
  rwa [String.append_left_inj, String.append_left_inj, String.append_right_inj] at hlead

/-! ## Reading a script back -/

/-- The start of a valid query holds no comma. -/
theorem comma_not_mem_start {q : Query} {current : Instant} (h : q.validate current = .ok ()) :
    ',' ∉ q.range.start.toList :=
  not_mem_of_isSeparator h (mem_bareTexts.2 (.inl rfl)) (by decide)

/-- The settings of the window of a valid query hold no comma. -/
theorem commaFree_of_validate {q : Query} {current : Instant} (h : q.validate current = .ok ()) :
    CommaFree q.aggregation := by
  intro henabled
  constructor
  · exact not_mem_of_isSeparator h (mem_bareTexts.2 (.inr (.inr ⟨henabled, .inl rfl⟩))) (by decide)
  · exact not_mem_of_isSeparator h (mem_bareTexts.2 (.inr (.inr ⟨henabled, .inr rfl⟩))) (by decide)

/-- The pieces of the fields tell the fields. -/
theorem map_field_inj {as bs : List String} :
    (as.map fun f => (columnLabel "_field", f)) = (bs.map fun f => (columnLabel "_field", f)) ↔
      as = bs := by
  refine List.map_inj_right ?_
  intro f g h
  exact (Prod.mk.inj h).2

/-- The pieces of the filters tell the filters, keys included. -/
theorem map_filter_inj {as bs : List TagFilter} :
    (as.map fun f => (columnLabel f.key, f.value)) = (bs.map fun f => (columnLabel f.key, f.value)) ↔
      as = bs := by
  refine List.map_inj_right ?_
  rintro ⟨key, value⟩ ⟨key', value'⟩ h
  obtain ⟨hlabel, hvalue⟩ := Prod.mk.inj h
  rw [columnLabel, columnLabel, String.append_left_inj, String.append_right_inj] at hlabel
  rw [TagFilter.mk.injEq]
  exact ⟨hlabel, hvalue⟩

/-- Valid queries whose scripts have the same pieces agree. -/
theorem agrees_of_pieces_eq {p q : Query} {s t : Instant} (hp : p.validate s = .ok ())
    (hq : q.validate t = .ok ()) (h : pieces p = pieces q) : p.Agrees q := by
  obtain ⟨-, -, hpfields, -⟩ := validate_eq_ok_iff.1 hp
  obtain ⟨-, -, hqfields, -⟩ := validate_eq_ok_iff.1 hq
  simp only [pieces, List.append_assoc] at h
  obtain ⟨-, hbucket, h⟩ := chain_singleton_eq_iff.1 h
  obtain ⟨hlead, hmeasurement, h⟩ := chain_singleton_eq_iff.1 h
  -- a filter starts like the first field: that there is a field keeps them apart
  obtain ⟨hfields, h⟩ := chain_append_inj_of_ne_nil (stops_filters _ _) (stops_filters _ _)
    (mt List.map_eq_nil_iff.1 hpfields) (mt List.map_eq_nil_iff.1 hqfields) h
  obtain ⟨hfilters, h⟩ := chain_append_inj (stops_closing _) (stops_closing _) h
  rw [String.append_left_inj, String.append_left_inj, String.append_left_inj,
    String.append_right_inj] at hlead
  obtain ⟨hstart, hstop⟩ := (range_inj (comma_not_mem_start hp) (comma_not_mem_start hq)).1 hlead
  obtain ⟨henabled, hsettings⟩ :=
    (line_window_inj (commaFree_of_validate hp) (commaFree_of_validate hq)).1
      (line_eq_of_closing_eq h)
  exact {
    bucket := hbucket
    measurement := hmeasurement
    fields := map_field_inj.1 hfields
    filters := map_filter_inj.1 hfilters
    start := hstart
    stop := hstop
    enabled := henabled
    every := fun he => (hsettings he).1
    reducer := fun he => (hsettings he).2.1
    createEmpty := fun he => (hsettings he).2.2 }

/-- Queries that agree have the same window. -/
theorem window?_eq_of_agrees {p q : Query} (h : p.Agrees q) :
    window? p.aggregation = window? q.aggregation := by
  unfold window?
  rw [← h.enabled]
  split
  · next henabled => rw [h.every henabled, h.reducer henabled, h.createEmpty henabled]
  · rfl

/-- Queries that agree have the same script. -/
theorem render_eq_of_agrees {p q : Query} (h : p.Agrees q) : render p = render q := by
  have hrange : range p.range = range q.range := by
    unfold range
    rw [h.start, h.stop]
  rw [render, render, stages, stages, h.bucket, hrange, h.measurement, h.fields, h.filters,
    window?_eq_of_agrees h]

/-- Two valid queries without double quotes have the same script exactly when they agree, up to the
settings of an aggregation that is not enabled. -/
theorem render_eq_iff {p q : Query} {s t : Instant} (hp : p.validate s = .ok ())
    (hq : q.validate t = .ok ()) (hpfree : p.QuoteFree) (hqfree : q.QuoteFree) :
    render p = render q ↔ p.Agrees q := by
  refine ⟨fun h => ?_, render_eq_of_agrees⟩
  obtain ⟨-, -, hpfields, -⟩ := validate_eq_ok_iff.1 hp
  obtain ⟨-, -, hqfields, -⟩ := validate_eq_ok_iff.1 hq
  have hend : '\"' ∉ [')'] := by decide
  have hweave : weave (pieces p) [')'] = weave (pieces q) [')'] := by
    rw [← toList_render p hpfields, ← toList_render q hqfields, h]
  have hpieces := (weave_inj (isClean_of_mem_pieces hp hpfree) (isClean_of_mem_pieces hq hqfree)
    hend hend).1 hweave
  exact agrees_of_pieces_eq hp hq hpieces.1

/-- A query with one filter whose key looks like two of them. -/
def crowdedKey : Query where
  bucket := "sensors"
  measurement := "air"
  fields := ["value"]
  filters := [⟨"room == 1 and r.floor", "2"⟩]
  range := ⟨"-1h", "now()"⟩

/-- The settings of an aggregation that is not enabled need not be valid, and do not show. -/
theorem render_crowdedKey :
    crowdedKey.validate ⟨0, 0⟩ = .ok () ∧
      { crowdedKey with aggregation := { every := "-1h" } }.validate ⟨86399, 1000000000⟩ = .ok () ∧
      crowdedKey.QuoteFree ∧ { crowdedKey with aggregation := { every := "-1h" } }.QuoteFree ∧
      render crowdedKey = render { crowdedKey with aggregation := { every := "-1h" } } := by
  have hvalid : crowdedKey.validate ⟨0, 0⟩ = .ok () := by decide +kernel
  have hvalid' : { crowdedKey with aggregation := { every := "-1h" } }.validate
      ⟨86399, 1000000000⟩ = .ok () := by decide +kernel
  have hfree : crowdedKey.QuoteFree :=
    ⟨by decide, by decide, by decide, by decide⟩
  have hfree' : { crowdedKey with aggregation := { every := "-1h" } }.QuoteFree :=
    ⟨by decide, by decide, by decide, by decide⟩
  refine ⟨hvalid, hvalid', hfree, hfree', (render_eq_iff hvalid hvalid' hfree hfree').2 ?_⟩
  exact ⟨rfl, rfl, rfl, rfl, rfl, rfl, rfl, nofun, nofun, nofun⟩

end Script

end SeriesQuery
