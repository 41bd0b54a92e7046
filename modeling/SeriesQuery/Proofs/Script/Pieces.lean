import SeriesQuery.Proofs.Text.Quoted
import SeriesQuery.Query.Script

/-!
# Scripts as quoted and bare parts

A script alternates between bare characters and texts in double quotes. `pieces` lists these parts for a
query, and `toList_render` says that they make up its script. As long as no part holds a double quote
itself, the script determines its parts (`weave_inj`).
-/

namespace SeriesQuery.Script

/-- Bare characters, followed by a text in double quotes. -/
structure Piece where
  bare : List Char
  quoted : List Char
  deriving DecidableEq

namespace Piece

/-- The characters of the piece in a script. -/
def chars (p : Piece) : List Char := p.bare ++ '\"' :: (p.quoted ++ ['\"'])

/-- No double quote stands where it would be taken for the end or the start of a quoted text. -/
def IsClean (p : Piece) : Prop := '\"' ∉ p.bare ∧ '\"' ∉ p.quoted

end Piece

/-- The pieces one after the other, and bare characters behind the last. -/
def weave (pieces : List Piece) (tail : List Char) : List Char :=
  pieces.flatMap Piece.chars ++ tail

theorem weave_nil (tail : List Char) : weave [] tail = tail := rfl

/-- The first piece stands in front, its text in double quotes. -/
theorem weave_cons (p : Piece) (ps : List Piece) (tail : List Char) :
    weave (p :: ps) tail = p.bare ++ '\"' :: (p.quoted ++ '\"' :: weave ps tail) := by
  simp only [weave, Piece.chars, List.flatMap_cons, List.append_assoc, List.cons_append,
    List.nil_append]

/-- Pieces side by side are woven one after the other. -/
theorem weave_append (ps qs : List Piece) (tail : List Char) :
    weave (ps ++ qs) tail = weave ps (weave qs tail) := by
  simp only [weave, List.flatMap_append, List.append_assoc]

/-! ## A script determines its pieces -/

/-- Clean pieces and what follows them are read off from the characters. -/
theorem weave_inj {ps qs : List Piece} {a b : List Char} (hp : ∀ p ∈ ps, p.IsClean)
    (hq : ∀ q ∈ qs, q.IsClean) (ha : '\"' ∉ a) (hb : '\"' ∉ b) :
    weave ps a = weave qs b ↔ ps = qs ∧ a = b := by
  induction ps generalizing qs with
  | nil =>
      cases qs with
      | nil => simp [weave_nil]
      | cons q qs =>
          have hne : a ≠ weave (q :: qs) b := by
            rintro rfl
            simp [weave_cons] at ha
          simp [weave_nil, hne]
  | cons p ps ih =>
      obtain ⟨hp1, hp2⟩ := hp p List.mem_cons_self
      cases qs with
      | nil =>
          have hne : weave (p :: ps) a ≠ b := by
            rintro rfl
            simp [weave_cons] at hb
          simp [weave_nil, hne]
      | cons q qs =>
          obtain ⟨hq1, hq2⟩ := hq q List.mem_cons_self
          have hps := fun r hr => hp r (List.mem_cons_of_mem p hr)
          have hqs := fun r hr => hq r (List.mem_cons_of_mem q hr)
          obtain ⟨pb, pq⟩ := p
          obtain ⟨qb, qq⟩ := q
          -- the next double quote ends the bare characters, the one behind it the text
          rw [weave_cons, weave_cons, Text.append_cons_inj hp1 hq1, Text.append_cons_inj hp2 hq2, ih hps hqs,
            List.cons.injEq, Piece.mk.injEq, and_assoc, and_assoc]

/-! ## The pieces of a query -/

/-- Labelled texts in quotes: `lead` stands before the first of them, `separator` before the others. -/
def chain (lead separator : String) : List (String × String) → List Piece
  | [] => []
  | (label, text) :: rest =>
    ⟨(lead ++ label).toList, text.toList⟩ :: chain separator separator rest

/-- What stands in front of the value of a column in a filter. -/
def columnLabel (column : String) : String := "r." ++ column ++ " == "

/-- The end of a stage and the start of a filter stage. -/
def nextFilter : String := ")" ++ "\n" ++ " |> filter(fn: (r) => "

/-- An optional stage with the line feed behind it, or nothing. -/
def line : Option String → String
  | some stage => stage ++ "\n"
  | none => ""

/-- The pieces behind the filters: the window, if any, and two stages that are the same in all scripts. -/
def closing (a : Aggregation) : List Piece :=
  chain (")" ++ "\n" ++ line (window? a) ++ " |> group(columns: [") ", "
      (groupColumns.map fun c => ("", c)) ++
    chain ("])" ++ "\n" ++ " |> drop(fn: (column) => ") " and "
      (keptColumns.map fun c => ("column != ", c))

/-- The quoted texts of the script of a query, each with the bare characters before it. -/
def pieces (q : Query) : List Piece :=
  chain "from(bucket: " "" [("", q.bucket)] ++
    chain (")" ++ "\n" ++ range q.range ++ "\n" ++ " |> filter(fn: (r) => ") ""
      [(columnLabel "_measurement", q.measurement)] ++
    chain nextFilter " or " (q.fields.map fun f => (columnLabel "_field", f)) ++
    chain nextFilter " and " (q.filters.map fun f => (columnLabel f.key, f.value)) ++
    closing q.aggregation

/-- A labelled text, as it stands in a script. -/
def labelled (item : String × String) : String := item.1 ++ literal item.2

/-- A literal is its text in double quotes. -/
theorem toList_literal (text : String) :
    (literal text).toList = '\"' :: (text.toList ++ ['\"']) := by
  rw [literal, String.toList_append, String.toList_append]
  rfl

/-- A chain that is not empty is the list of its labelled texts behind its lead. -/
theorem weave_chain {lead separator : String} {items : List (String × String)} {tail : List Char}
    (hne : items ≠ []) :
    weave (chain lead separator items) tail =
      lead.toList ++ ((separator.intercalate (items.map labelled)).toList ++ tail) := by
  induction items generalizing lead with
  | nil => exact absurd rfl hne
  | cons item rest ih =>
      rw [chain, weave_cons]
      cases rest with
      | nil =>
          simp only [chain, weave_nil, List.map_cons, List.map_nil, String.intercalate_singleton,
            labelled, String.toList_append, toList_literal, List.append_assoc, List.cons_append,
            List.nil_append]
      | cons next rest =>
          rw [ih (List.cons_ne_nil _ _)]
          simp only [List.map_cons, String.intercalate_cons_cons, labelled, String.toList_append,
            toList_literal, List.append_assoc, List.cons_append, List.nil_append]

/-- A labelled text of a column is a comparison with the column. -/
theorem map_labelled_column {α : Type} (column text : α → String) (items : List α) :
    (items.map fun i => (columnLabel (column i), text i)).map labelled =
      items.map fun i => equals (column i) (text i) := by
  rw [List.map_map]
  rfl

/-- The pieces of the tags are the stage that filters by tags, between two others. -/
theorem weave_tags (filters : List TagFilter) (tail : List Char) :
    weave (chain nextFilter " and " (filters.map fun f => (columnLabel f.key, f.value)))
        (")".toList ++ ("\n".toList ++ tail)) =
      ")".toList ++ ("\n".toList ++ ((line (tags? filters)).toList ++ tail)) := by
  cases filters with
  | nil => rfl
  | cons f rest =>
      rw [tags?, if_neg (List.cons_ne_nil f rest), line, ← map_labelled_column, List.map_cons,
        weave_chain (List.cons_ne_nil _ _)]
      unfold nextFilter filter
      -- with the fixed texts replaced by variables, no two of them are compared by evaluation
      generalize ")" = close, "\n" = feed, " |> filter(fn: (r) => " = head
      simp only [String.toList_append, List.append_assoc]

/-- The stages of a script one after the other. -/
theorem render_eq (q : Query) :
    render q = source q.bucket ++ "\n" ++ range q.range ++ "\n" ++ measurement q.measurement ++
      "\n" ++ field q.fields ++ "\n" ++ line (tags? q.filters) ++ line (window? q.aggregation) ++
        group ++ "\n" ++ projection := by
  simp only [render, stages]
  cases tags? q.filters <;> cases window? q.aggregation <;>
    simp only [line, Option.toList_none, Option.toList_some, List.append_nil, List.cons_append,
      List.nil_append, String.intercalate_cons_cons, String.intercalate_singleton,
      String.append_assoc, String.append_empty]

/-- The pieces of a query, closed by the last parenthesis, are its script. -/
theorem toList_render (q : Query) (hfields : q.fields ≠ []) :
    (render q).toList = weave (pieces q) [')'] := by
  have hend : [')'] = ")".toList := by decide
  have hfield : (q.fields.map fun f => (columnLabel "_field", f)).map labelled =
      q.fields.map (equals "_field") := List.map_map
  have hgroup : (groupColumns.map fun c => ("", c)).map labelled = groupColumns.map literal := by
    simp only [List.map_map, Function.comp_def, labelled, String.empty_append]
  have hkept : (keptColumns.map fun c => ("column != ", c)).map labelled =
      keptColumns.map fun c => "column != " ++ literal c := List.map_map
  have hne : ∀ {α : Type} {g : α → String × String} {items : List α}, items ≠ [] →
      items.map g ≠ [] := fun h => mt List.map_eq_nil_iff.1 h
  rw [render_eq, hend]
  unfold pieces closing
  simp only [weave_append, weave_chain (List.cons_ne_nil _ _), weave_chain (hne hfields),
    weave_chain (hne (by decide : groupColumns ≠ [])),
    weave_chain (hne (by decide : keptColumns ≠ [])), hfield, hgroup, hkept,
    List.map_cons, List.map_nil, String.intercalate_singleton, labelled, String.toList_append,
    List.append_assoc, weave_tags]
  unfold source measurement field group projection filter equals columnLabel nextFilter
  generalize ")" = close, "\n" = feed, " |> filter(fn: (r) => " = head
  simp only [String.toList_append, List.append_assoc, String.toList_empty, List.nil_append]

end SeriesQuery.Script
