import Mathlib.Algebra.BigOperators.Group.List.Basic
import Mathlib.Data.List.Infix
import SeriesQuery.Proofs.Script.Injective

/-!
# Pipe operators in scripts

Each stage but the first starts with a pipe operator. In the script of a valid query without double
quotes the texts in literals add none, and neither do the bounds and the window, which stand in it bare.
Keys of filters stand in it bare too, and nothing keeps an operator out of them: a script has one more
for each operator in a key, and the stages of its query alone exactly when no key holds one
(`pipes_render_eq_iff`).
-/

namespace SeriesQuery.Script

open Query

/-- The pipe operators outside literals, from a place inside a literal or outside on. A literal runs
from a double quote to the next one. -/
def pipesFrom (inside : Bool) : List Char → Nat
  | [] => 0
  | c :: cs =>
    (if inside = false ∧ c = '|' ∧ cs.head? = some '>' then 1 else 0) +
      pipesFrom (if c = '\"' then !inside else inside) cs

/-- The pipe operators of a script, those in its literals left out. -/
def pipes (script : String) : Nat := pipesFrom false script.toList

/-- The pipe operators that the stages of a query start with. -/
def stagePipes (q : Query) : Nat :=
  5 + (if q.filters = [] then 0 else 1) + (if q.aggregation.enabled then 1 else 0)

/-! ## Counting -/

/-- A double quote opens a literal or ends it. -/
theorem pipesFrom_quote (inside : Bool) (cs : List Char) :
    pipesFrom inside ('\"' :: cs) = pipesFrom (!inside) cs := by
  simp [pipesFrom]

/-- Outside of literals, a bar counts if a greater sign follows. -/
theorem pipesFrom_bare {c : Char} (h : c ≠ '\"') (cs : List Char) :
    pipesFrom false (c :: cs) =
      (if c = '|' ∧ cs.head? = some '>' then 1 else 0) + pipesFrom false cs := by
  simp [pipesFrom, h]

/-- Nothing in a literal counts. -/
theorem pipesFrom_literal {cs : List Char} (h : '\"' ∉ cs) (rest : List Char) :
    pipesFrom true (cs ++ '\"' :: rest) = pipesFrom false rest := by
  induction cs with
  | nil => exact pipesFrom_quote true rest
  | cons c cs ih =>
      have hc : c ≠ '\"' := fun heq => h (heq ▸ List.mem_cons_self)
      have hcs : '\"' ∉ cs := fun hmem => h (List.mem_cons_of_mem c hmem)
      simp [pipesFrom, hc, ih hcs]

/-- Without a bar there is no operator. -/
theorem pipesFrom_eq_zero {cs : List Char} (h : '|' ∉ cs) (inside : Bool) :
    pipesFrom inside cs = 0 := by
  induction cs generalizing inside with
  | nil => rfl
  | cons c cs ih =>
      have hc : c ≠ '|' := fun heq => h (heq ▸ List.mem_cons_self)
      have hcs : '|' ∉ cs := fun hmem => h (List.mem_cons_of_mem c hmem)
      simp [pipesFrom, hc, ih hcs]

/-- Two texts side by side have the operators of both, unless one stands across the border. -/
theorem pipesFrom_append {as bs : List Char} (h : '\"' ∉ as)
    (hborder : as.getLast? ≠ some '|' ∨ bs.head? ≠ some '>') :
    pipesFrom false (as ++ bs) = pipesFrom false as + pipesFrom false bs := by
  induction as with
  | nil => simp [pipesFrom]
  | cons a as ih =>
      have ha : a ≠ '\"' := fun heq => h (heq ▸ List.mem_cons_self)
      have has : '\"' ∉ as := fun hmem => h (List.mem_cons_of_mem a hmem)
      rw [List.cons_append, pipesFrom_bare ha, pipesFrom_bare ha]
      cases as with
      | nil =>
          have hnone : ¬ (a = '|' ∧ bs.head? = some '>') := by
            rintro ⟨rfl, hb⟩
            simp [hb] at hborder
          simp [pipesFrom, hnone]
      | cons a' as' =>
          have hrest := ih has (by simpa using hborder)
          rw [hrest, List.cons_append, List.head?_cons, List.head?_cons]
          omega

/-- A text without double quotes has no operator exactly when no two of its characters side by side are
one. -/
theorem pipesFrom_eq_zero_iff {cs : List Char} (h : '\"' ∉ cs) :
    pipesFrom false cs = 0 ↔ ¬ ['|', '>'] <:+: cs := by
  induction cs with
  | nil => simp [pipesFrom]
  | cons c cs ih =>
      have hc : c ≠ '\"' := fun heq => h (heq ▸ List.mem_cons_self)
      have hcs : '\"' ∉ cs := fun hmem => h (List.mem_cons_of_mem c hmem)
      have hhead : ['|', '>'] <+: c :: cs ↔ c = '|' ∧ cs.head? = some '>' := by
        cases cs with
        | nil => simp
        | cons d ds => simp [List.cons_prefix_cons, eq_comm]
      rw [pipesFrom_bare hc, List.infix_cons_iff, hhead, Nat.add_eq_zero_iff, ih hcs, not_or]
      simp

/-! ## Counting along the pieces -/

/-- The operators in the bare part of a piece. -/
def Piece.pipes (p : Piece) : Nat := pipesFrom false p.bare

/-- Only what stands between the literals counts. -/
theorem pipesFrom_weave {ps : List Piece} (h : ∀ p ∈ ps, p.IsClean) (tail : List Char) :
    pipesFrom false (weave ps tail) = (ps.map Piece.pipes).sum + pipesFrom false tail := by
  induction ps with
  | nil => simp [weave_nil]
  | cons p ps ih =>
      obtain ⟨⟨hbare, hquoted⟩, hps⟩ := List.forall_mem_cons.1 h
      have hborder : p.bare.getLast? ≠ some '|' ∨
          ('\"' :: (p.quoted ++ '\"' :: weave ps tail)).head? ≠ some '>' := by
        right
        simp
      rw [weave_cons, pipesFrom_append hbare hborder, pipesFrom_quote, Bool.not_false,
        pipesFrom_literal hquoted, ih hps, List.map_cons, List.sum_cons, Piece.pipes, Nat.add_assoc]

/-- Two texts side by side have the operators of both, unless one stands across the border. -/
theorem pipes_append {s : String} (h : '\"' ∉ s.toList) {t : String}
    (hborder : s.toList.getLast? ≠ some '|' ∨ t.toList.head? ≠ some '>') :
    pipes (s ++ t) = pipes s + pipes t := by
  rw [pipes, String.toList_append]
  exact pipesFrom_append h hborder

/-- A text without quotes and bars adds nothing to the text behind it. -/
theorem pipes_append_of_not_mem {s : String} (hquote : '\"' ∉ s.toList) (hbar : '|' ∉ s.toList)
    (t : String) : pipes (s ++ t) = pipes t := by
  have hborder : s.toList.getLast? ≠ some '|' := fun hlast => hbar (List.mem_of_getLast? hlast)
  have hzero : pipes s = 0 := pipesFrom_eq_zero hbar false
  rw [pipes_append hquote (.inl hborder), hzero, Nat.zero_add]

/-- A chain has the operators of its lead, if it has an item, and those of its labels. -/
theorem sum_pipes_chain {lead separator : String} (items : List (String × String))
    (hlead : '\"' ∉ lead.toList) (hseparator : '\"' ∉ separator.toList ∧ pipes separator = 0)
    (hitems : ∀ i ∈ items, i.1.toList.head? ≠ some '>') :
    ((chain lead separator items).map Piece.pipes).sum =
      (if items = [] then 0 else pipes lead) + (items.map fun i => pipes i.1).sum := by
  induction items generalizing lead with
  | nil => rfl
  | cons item rest ih =>
      obtain ⟨hitem, hrest⟩ := List.forall_mem_cons.1 hitems
      have hbare : pipesFrom false (lead ++ item.1).toList = pipes lead + pipes item.1 :=
        pipes_append hlead (.inr hitem)
      have htail : ((chain separator separator rest).map Piece.pipes).sum =
          (rest.map fun i => pipes i.1).sum := by
        rw [ih hseparator.1 hrest, hseparator.2, ite_self, Nat.zero_add]
      rw [chain, List.map_cons, List.sum_cons, htail, Piece.pipes, hbare, List.map_cons,
        List.sum_cons, if_neg (List.cons_ne_nil item rest), Nat.add_assoc]

/-! ## Counting in a script -/

variable {q : Query} {current : Instant}

/-- A text that a valid query puts into its script without quotes adds nothing to what follows it. -/
theorem pipes_bareText_append (h : q.validate current = .ok ()) {text : String}
    (htext : text ∈ q.bareTexts) (t : String) : pipes (text ++ t) = pipes t :=
  pipes_append_of_not_mem (not_mem_of_isSeparator h htext (by decide))
    (not_mem_of_isSeparator h htext (by decide)) t

/-- The stage of the range and the start of the one behind it. -/
theorem pipes_range (h : q.validate current = .ok ()) :
    pipes (")" ++ "\n" ++ range q.range ++ "\n" ++ " |> filter(fn: (r) => ") = 2 := by
  have hstart := pipes_bareText_append h (mem_bareTexts.2 (.inl rfl))
  have hstop := pipes_bareText_append h (mem_bareTexts.2 (.inr (.inl rfl)))
  unfold range
  simp only [String.append_assoc]
  rw [pipes_append (by decide) (.inl (by decide)), pipes_append (by decide) (.inl (by decide)),
    pipes_append (by decide) (.inl (by decide)), hstart,
    pipes_append (by decide) (.inl (by decide)), hstop]
  decide

/-- The line of the window, if there is one, and the stage behind it. -/
theorem pipes_window (h : q.validate current = .ok ()) :
    pipes (")" ++ "\n" ++ line (window? q.aggregation) ++ " |> group(columns: [") =
      1 + (if q.aggregation.enabled then 1 else 0) := by
  unfold window?
  split
  · next henabled =>
    have hevery :=
      pipes_bareText_append h (mem_bareTexts.2 (.inr (.inr ⟨henabled, .inl rfl⟩)))
    have hreducer :=
      pipes_bareText_append h (mem_bareTexts.2 (.inr (.inr ⟨henabled, .inr rfl⟩)))
    simp only [line, String.append_assoc]
    rw [pipes_append (by decide) (.inl (by decide)), pipes_append (by decide) (.inl (by decide)),
      pipes_append (by decide) (.inl (by decide)), hevery,
      pipes_append (by decide) (.inl (by decide)), hreducer]
    cases q.aggregation.createEmpty <;> decide
  · decide

/-- The label of a column has the operators of its name. -/
theorem pipes_columnLabel {column : String} (h : '\"' ∉ column.toList) :
    pipes (columnLabel column) = pipes column := by
  rw [columnLabel, String.append_assoc, pipes_append (by decide) (.inl (by decide)),
    pipes_append h (.inr (by decide))]
  simp only [show pipes "r." = 0 by decide, show pipes " == " = 0 by decide, Nat.zero_add,
    Nat.add_zero]

/-- No label starts with the second half of an operator. -/
theorem head?_columnLabel (column : String) : (columnLabel column).toList.head? ≠ some '>' := by
  have hhead : (columnLabel column).toList.head? = some 'r' := by
    rw [columnLabel, String.append_assoc, String.toList_append]
    rfl
  simp [hhead]

/-- The chain of a filter stage has the operator that the stage starts with, and those of the columns. -/
theorem sum_pipes_filter {α : Type} (items : List α) (column text : α → String) {separator : String}
    (hseparator : '\"' ∉ separator.toList ∧ pipes separator = 0)
    (hcolumns : ∀ i ∈ items, '\"' ∉ (column i).toList) :
    ((chain nextFilter separator (items.map fun i => (columnLabel (column i), text i))).map
      Piece.pipes).sum =
      (if items = [] then 0 else 1) + (items.map fun i => pipes (column i)).sum := by
  have hlabels : items.map (fun i => pipes (columnLabel (column i))) =
      items.map fun i => pipes (column i) :=
    List.map_congr_left fun i hi => pipes_columnLabel (hcolumns i hi)
  have hheads : ∀ i ∈ items.map fun i => (columnLabel (column i), text i),
      i.1.toList.head? ≠ some '>' := by
    intro i hi
    obtain ⟨j, -, rfl⟩ := List.mem_map.1 hi
    exact head?_columnLabel (column j)
  have hfilter : pipes nextFilter = 1 := by decide
  rw [sum_pipes_chain _ (by decide) hseparator hheads, hfilter, List.map_map]
  simp only [List.map_eq_nil_iff, Function.comp_def, hlabels]

/-- The window, if there is one, and the two stages behind it. -/
theorem sum_pipes_closing (h : q.validate current = .ok ()) :
    ((closing q.aggregation).map Piece.pipes).sum =
      2 + (if q.aggregation.enabled then 1 else 0) := by
  have hline : '\"' ∉
      (")" ++ "\n" ++ line (window? q.aggregation) ++ " |> group(columns: [").toList := by
    simp only [quote_not_mem_append, quote_not_mem_line h, not_false_eq_true, and_true]
    decide
  have hgroup := sum_pipes_chain (groupColumns.map fun c => ("", c)) hline
    (by decide : '\"' ∉ ", ".toList ∧ pipes ", " = 0) (by decide)
  have hkept := sum_pipes_chain (keptColumns.map fun c => ("column != ", c))
    (by decide : '\"' ∉ ("])" ++ "\n" ++ " |> drop(fn: (column) => ").toList)
    (by decide : '\"' ∉ " and ".toList ∧ pipes " and " = 0) (by decide)
  have hdrop : pipes ("])" ++ "\n" ++ " |> drop(fn: (column) => ") = 1 := by decide
  rw [closing, List.map_append, List.sum_append, hgroup, hkept, pipes_window h, hdrop]
  simp [groupColumns, keptColumns, show pipes "" = 0 by decide,
    show pipes "column != " = 0 by decide]
  omega

/-- The pieces of a valid query have the operators of its stages, and those in the keys of its
filters. -/
theorem sum_pipes_pieces (h : q.validate current = .ok ()) (hfree : q.QuoteFree) :
    ((pieces q).map Piece.pipes).sum =
      stagePipes q + (q.filters.map fun f => pipes f.key).sum := by
  obtain ⟨-, -, hfields, -⟩ := validate_eq_ok_iff.1 h
  have hsource : ((chain "from(bucket: " "" [("", q.bucket)]).map Piece.pipes).sum = 0 := by
    rfl
  have hrange : ((chain (")" ++ "\n" ++ range q.range ++ "\n" ++ " |> filter(fn: (r) => ") ""
      [(columnLabel "_measurement", q.measurement)]).map Piece.pipes).sum = 2 := by
    have hbare : '\"' ∉
        (")" ++ "\n" ++ range q.range ++ "\n" ++ " |> filter(fn: (r) => ").toList := by
      simp only [quote_not_mem_append, quote_not_mem_range h, not_false_eq_true, and_true]
      decide
    have hhead : ∀ i ∈ [(columnLabel "_measurement", q.measurement)],
        i.1.toList.head? ≠ some '>' := by
      intro i hi
      rw [List.mem_singleton.1 hi]
      exact head?_columnLabel "_measurement"
    rw [sum_pipes_chain _ hbare (by decide) hhead, pipes_range h]
    simp [pipes_columnLabel (by decide : '\"' ∉ "_measurement".toList),
      show pipes "_measurement" = 0 by decide]
  have hfield := sum_pipes_filter q.fields (fun _ => "_field") id
    (by decide : '\"' ∉ " or ".toList ∧ pipes " or " = 0) fun _ _ => by decide
  have htags := sum_pipes_filter q.filters TagFilter.key TagFilter.value
    (by decide : '\"' ∉ " and ".toList ∧ pipes " and " = 0) fun f hf => (hfree.filters f hf).1
  simp only [pieces, List.map_append, List.sum_append, hsource, hrange, htags, sum_pipes_closing h]
  simp only [id_eq] at hfield
  rw [hfield, if_neg hfields]
  simp [stagePipes, show pipes "_field" = 0 by decide]
  omega

/-- The script of a valid query without double quotes has the operators of its stages, and those in the
keys of its filters. -/
theorem pipes_render (h : q.validate current = .ok ()) (hfree : q.QuoteFree) :
    pipes (render q) = stagePipes q + (q.filters.map fun f => pipes f.key).sum := by
  obtain ⟨-, -, hfields, -⟩ := validate_eq_ok_iff.1 h
  have htail : pipesFrom false [')'] = 0 := by decide
  rw [pipes, toList_render q hfields, pipesFrom_weave (isClean_of_mem_pieces h hfree),
    sum_pipes_pieces h hfree, htail, Nat.add_zero]

/-- The script of a valid query without double quotes has the stages of its query alone exactly when no
key of a filter holds an operator. -/
theorem pipes_render_eq_iff (h : q.validate current = .ok ()) (hfree : q.QuoteFree) :
    pipes (render q) = stagePipes q ↔ ∀ f ∈ q.filters, ¬ ['|', '>'] <:+: f.key.toList := by
  rw [pipes_render h hfree, Nat.add_eq_left, List.sum_eq_zero_iff_forall_eq_nat,
    List.forall_mem_map]
  exact forall₂_congr fun f hf => pipesFrom_eq_zero_iff (hfree.filters f hf).1

/-- A query with every stage, whose texts come close to another one. -/
def nearlyAddedStage : Query where
  bucket := "sensors) |> limit(n: 1"
  measurement := "|>"
  fields := ["value", "|> value"]
  filters := [⟨"room > 1 | r.floor", "|> 2"⟩]
  aggregation := { enabled := true, every := "10m", reducer := "mean" }
  range := ⟨"-1h", "now()"⟩

/-- A filter whose key ends like the first half of an operator adds no stage. -/
theorem pipes_render_nearlyAddedStage :
    nearlyAddedStage.validate ⟨0, 0⟩ = .ok () ∧ nearlyAddedStage.QuoteFree ∧
      pipes (render nearlyAddedStage) = 7 := by
  have hvalid : nearlyAddedStage.validate ⟨0, 0⟩ = .ok () := by decide +kernel
  have hfree : nearlyAddedStage.QuoteFree := ⟨by decide, by decide, by decide, by decide⟩
  have hkeys : ∀ f ∈ nearlyAddedStage.filters, ¬ ['|', '>'] <:+: f.key.toList := by decide
  exact ⟨hvalid, hfree, (pipes_render_eq_iff hvalid hfree).2 hkeys⟩

/-- A query whose script cuts its rows before it groups them, by the key of its only filter. -/
def addedStage : Query where
  bucket := "sensors"
  measurement := "air"
  fields := ["value"]
  filters := [⟨"room != r.floor) |> limit(n: 1) |> filter(fn: (r) => r.room", "2"⟩]
  range := ⟨"-1h", "now()"⟩

/-- A key can hold operators: not every valid query without double quotes has a script with its own stages
alone. -/
theorem not_pipes_render_addedStage :
    (addedStage.validate ⟨0, 0⟩ = .ok () ∧ addedStage.QuoteFree ∧ stagePipes addedStage = 6 ∧
      pipes (render addedStage) = 8) ∧
    ¬ ∀ (q : Query) (current : Instant), q.validate current = .ok () → q.QuoteFree →
      pipes (render q) = stagePipes q := by
  have hvalid : addedStage.validate ⟨0, 0⟩ = .ok () := by decide +kernel
  have hfree : addedStage.QuoteFree := ⟨by decide, by decide, by decide, by decide⟩
  have hstages : stagePipes addedStage = 6 := by decide
  have hkeys : (addedStage.filters.map fun f => pipes f.key).sum = 2 := by decide
  have hpipes : pipes (render addedStage) = 8 := by
    rw [pipes_render hvalid hfree, hstages, hkeys]
  refine ⟨⟨hvalid, hfree, hstages, hpipes⟩, fun hall => ?_⟩
  have hequal := hall addedStage ⟨0, 0⟩ hvalid hfree
  rw [hpipes, hstages] at hequal
  omega

end SeriesQuery.Script
