import SeriesQuery.Command.Run
import SeriesQuery.Proofs.Calendar.Zoned
import SeriesQuery.Proofs.Json.Text
import SeriesQuery.Proofs.Number.Shortest

/-!
# Printed samples

The document that is printed for samples, spelled out: a list with one object for each sample, over several
lines (`Command.printed_eq_listing`). Of the texts in it, only a tag can need escapes. Each of them tells what it
stands for (`Sample.IsLegible`).
-/

namespace SeriesQuery

instance (f : Interchange) (bits : ℕ) : Decidable (f.IsFinite bits) := inferInstanceAs (Decidable (_ < _))

namespace Sample

/-- The text for a value. Nothing but finite numbers have a text of their own. -/
def valueText : Option Binary64 → String
  | none => "null"
  | some x => if Interchange.double.IsFinite x.bits.toNat then String.ofList x.write else "null"

/-- The lines for a sample. -/
def entry (s : Sample) : String :=
  "\n  \x7b\n    \"time\": \"" ++ Timestamp.renderExact s.time ++ "\",\n    \"value\": " ++
    valueText s.value ++ ",\n    \"field_tag\": " ++ String.ofList (JsonText.write s.tag) ++ "\n  \x7d"

/-- The lines for samples. -/
def listing : List Sample → String
  | [] => "[]\n"
  | s :: rest => "[" ++ s.entry ++ String.join (rest.map ("," ++ ·.entry)) ++ "\n]\n"

/-- The texts for a sample tell what it is. A year beyond four digits has a sign in front, which the layout of times
in results does not know, and of the numbers only the finite ones are written. -/
structure IsLegible (s : Sample) : Prop where
  time : 0 ≤ s.time.date.year → s.time.date.year ≤ 9999 →
    Timestamp.IsZoned (Timestamp.renderExact s.time).toList s.time
  value : ∀ x, s.value = some x → Interchange.double.IsFinite x.bits.toNat →
    Binary64.Writes (valueText s.value).toList x
  tag : ∀ rest, ∃ cs, JsonText.write s.tag = '\"' :: cs ∧
    JsonText.read? (some []) (cs ++ rest) = some (some s.tag, rest)

/-- A sample whose time is regular can be read off its entry. -/
theorem isLegible_of_isRegular {s : Sample} (h : s.time.IsRegular) : s.IsLegible where
  time := Timestamp.isZoned_renderExact h
  value := by
    intro x hx hfinite
    rw [hx, valueText, if_pos hfinite, String.toList_ofList]
    exact Binary64.writes_write hfinite
  tag := JsonText.read?_write s.tag

end Sample

/-! ## Times need no escapes -/

/-- The characters that times are written with. -/
def IsTimeChar (c : Char) : Prop := c.isDigit = true ∨ c ∈ ['-', '+', 'T', ':', '.', 'Z']

namespace JsonText

/-- A character of a time is written as it is. -/
theorem writeChar_of_isTimeChar {c : Char} (h : IsTimeChar c) : writeChar c = [c] := by
  rcases h with h | h
  · have h0 : 48 ≤ c.toNat := (Char.isDigit_iff_toNat.1 h).1
    unfold writeChar
    split
    case h_8 => exact if_neg (by omega)
    all_goals exact absurd h (by decide)
  · simp only [List.mem_cons, List.not_mem_nil, or_false] at h
    rcases h with rfl | rfl | rfl | rfl | rfl | rfl <;> rfl

/-- The text of a time is written between quotes, with nothing escaped. -/
theorem write_of_isTimeChar {text : String} (h : ∀ c ∈ text.toList, IsTimeChar c) :
    write text = '\"' :: text.toList ++ ['\"'] := by
  have hflat : text.toList.flatMap writeChar = text.toList := by
    rw [List.flatMap_congr fun c hc => writeChar_of_isTimeChar (h c hc)]
    exact List.flatMap_singleton' _
  rw [write, hflat]

end JsonText

namespace Timestamp

open Text

/-- The digits of a field are characters of a time. -/
theorem isTimeChar_padded (width n : ℕ) : ∀ c ∈ padded width n, IsTimeChar c :=
  fun c hc => .inl (isDigits_padded width n c hc)

/-- A fraction and its point are characters of a time. -/
theorem isTimeChar_writeFraction (nanos : ℕ) : ∀ c ∈ writeFraction nanos, IsTimeChar c := by
  have hpoint : IsTimeChar '.' := .inr (by decide)
  unfold writeFraction
  split
  · exact fun c hc => absurd hc List.not_mem_nil
  · split
    · exact List.forall_mem_cons.2 ⟨hpoint, isTimeChar_padded _ _⟩
    · split <;> exact List.forall_mem_cons.2 ⟨hpoint, isTimeChar_padded _ _⟩

/-- A year and its sign are characters of a time. -/
theorem isTimeChar_writeYear (year : ℤ) : ∀ c ∈ writeYear year, IsTimeChar c := by
  unfold writeYear
  split
  · exact List.forall_mem_cons.2 ⟨.inr (by decide), isTimeChar_padded _ _⟩
  · split
    · exact isTimeChar_padded _ _
    · exact List.forall_mem_cons.2 ⟨.inr (by decide), isTimeChar_padded _ _⟩

/-- A rendered time has no other characters. -/
theorem isTimeChar_renderExact (t : Instant) : ∀ c ∈ (renderExact t).toList, IsTimeChar c := by
  have hdash : IsTimeChar '-' := .inr (by decide)
  have hletter : IsTimeChar 'T' := .inr (by decide)
  have hcolon : IsTimeChar ':' := .inr (by decide)
  have hzulu : IsTimeChar 'Z' := .inr (by decide)
  simp only [renderExact, String.toList_ofList, writeSecond, List.forall_mem_append, List.forall_mem_cons,
    hdash, hletter, hcolon, hzulu, true_and, List.not_mem_nil, IsEmpty.forall_iff, implies_true, and_true]
  have hfield := isTimeChar_padded 2
  exact ⟨⟨⟨⟨⟨⟨isTimeChar_writeYear _, hfield _⟩, hfield _⟩, hfield _⟩, hfield _⟩, hfield _⟩,
    isTimeChar_writeFraction _⟩

end Timestamp

/-! ## The document -/

namespace Sample

/-- Of the numbers, the finite ones are written. -/
theorem writeNumber_real (x : Binary64) : Json.writeNumber (some (.real x)) = (valueText (some x)).toList := by
  obtain ⟨negative, m, hm, rfl⟩ := Binary64.exists_ofParts x
  have hnumber : ((Binary64.ofParts negative m).isNaN || (Binary64.ofParts negative m).isInfinite) = true ↔
      ¬ m < Binary64.infinityBits := by
    rw [Binary64.isNaN, Binary64.isInfinite, Binary64.magnitudeBits_ofParts negative hm, Bool.or_eq_true,
      decide_eq_true_eq, beq_iff_eq]
    omega
  rw [valueText, Json.writeNumber]
  by_cases hfinite : m < Binary64.infinityBits
  · rw [if_neg (mt hnumber.1 (not_not.2 hfinite)), if_pos ((Binary64.isFinite_ofParts_iff hm).2 hfinite),
      String.toList_ofList]
  · rw [if_pos (hnumber.2 hfinite), if_neg (mt (Binary64.isFinite_ofParts_iff hm).1 hfinite)]

/-- The lines of an object that is not empty. -/
theorem writeLines_object (depth : ℕ) (name value : Json) (rest : JsonMembers) :
    Json.writeLines depth (.object (.cons name value rest)) =
      '\x7b' :: Json.linesOfMembers (depth + 1) [] (.cons name value rest) := by
  rw [Json.writeLines]
  exact nofun

/-- The lines of a list that is not empty. -/
theorem writeLines_array (depth : ℕ) (item : Json) (rest : JsonItems) :
    Json.writeLines depth (.array (.cons item rest)) =
      '[' :: Json.linesOfItems (depth + 1) [] (.cons item rest) := by
  rw [Json.writeLines]
  exact nofun

/-- A value is written as its number, and a missing one as null. -/
theorem writeLines_value (depth : ℕ) (value : Option Binary64) :
    Json.writeLines depth ((value.map fun x => Json.number (some (.real x))).getD .null) =
      (valueText value).toList := by
  cases value with
  | none =>
      show Json.writeLines depth .null = _
      rw [Json.writeLines, valueText]
  | some x =>
      show Json.writeLines depth (.number (some (.real x))) = _
      rw [Json.writeLines, writeNumber_real]

/-- A text is written on one line. -/
theorem writeLines_text (depth : ℕ) (text : String) :
    Json.writeLines depth (.string (some text)) = JsonText.write text := by
  rw [Json.writeLines]
  rfl

/-- The object of a sample, on lines of its own. The texts between its values are left open, because the
rewriting would look into them. -/
theorem toList_entry_of {s : Sample} {opening value tag closing : String}
    (hopening : opening.toList =
      Json.newLine 1 ++ '\x7b' :: (Json.newLine 2 ++ JsonText.write "time" ++ [':', ' ', '\"']))
    (hvalue : value.toList = '\"' :: ',' :: (Json.newLine 2 ++ JsonText.write "value" ++ [':', ' ']))
    (htag : tag.toList = ',' :: (Json.newLine 2 ++ JsonText.write "field_tag" ++ [':', ' ']))
    (hclosing : closing.toList = Json.newLine 1 ++ ['\x7d']) :
    (opening ++ Timestamp.renderExact s.time ++ value ++ valueText s.value ++ tag ++
        String.ofList (JsonText.write s.tag) ++ closing).toList =
      Json.newLine 1 ++ Json.writeLines 1 s.toJson := by
  have htime : JsonText.write (Timestamp.renderExact s.time) =
      '\"' :: (Timestamp.renderExact s.time).toList ++ ['\"'] :=
    JsonText.write_of_isTimeChar (Timestamp.isTimeChar_renderExact s.time)
  simp only [String.toList_append, hopening, hvalue, htag, hclosing, String.toList_ofList, toJson,
    Json.ofMembers, JsonMembers.ofList, writeLines_object, Json.linesOfMembers, writeLines_value, Json.ofText,
    writeLines_text, htime, List.append_assoc, List.cons_append, List.nil_append, Nat.reduceAdd, Nat.reduceSub]

/-- An entry is the tree of its sample, written one level in. -/
theorem toList_entry (s : Sample) : s.entry.toList = Json.newLine 1 ++ Json.writeLines 1 s.toJson :=
  toList_entry_of (by decide +kernel) (by decide +kernel) (by decide +kernel) (by decide +kernel)

theorem toList_comma_append (text : String) : ("," ++ text).toList = ',' :: text.toList := by
  rw [String.toList_append]
  rfl

/-- The items behind the first one. -/
theorem linesOfItems_map (samples : List Sample) :
    Json.linesOfItems 1 [','] (JsonItems.ofList (samples.map toJson)) =
      (String.join (samples.map ("," ++ ·.entry))).toList ++ ['\n', ']'] := by
  induction samples with
  | nil => rfl
  | cons s rest ih =>
      have hentry : [','] ++ Json.newLine 1 ++ Json.writeLines 1 s.toJson = ("," ++ s.entry).toList := by
        rw [toList_comma_append, toList_entry]
        rfl
      rw [List.map_cons, JsonItems.ofList, Json.linesOfItems, hentry, ih, List.map_cons, String.join_cons,
        ← List.append_assoc, ← String.toList_append]

end Sample

/-- What is printed for samples is their listing. -/
theorem Command.printed_eq_listing (samples : List Sample) : printed samples = Sample.listing samples := by
  cases samples with
  | nil => decide +kernel
  | cons s rest =>
      have hlines : Json.writeLines 0 (Json.ofItems ((s :: rest).map Sample.toJson)) =
          '[' :: (s.entry.toList ++ ((String.join (rest.map ("," ++ ·.entry))).toList ++ ['\n', ']'])) := by
        rw [← Sample.linesOfItems_map, Sample.toList_entry, Json.ofItems, List.map_cons, JsonItems.ofList,
          Sample.writeLines_array, Json.linesOfItems, List.nil_append, List.append_assoc]
      have hopen : "[".toList = ['['] := rfl
      have hclose : "\n]\n".toList = ['\n', ']'] ++ "\n".toList := rfl
      rw [← String.toList_inj, printed, line, Json.pretty, hlines, Sample.listing]
      simp only [String.toList_append, String.toList_ofList, hopen, hclose, List.cons_append, List.nil_append,
        List.append_assoc]

end SeriesQuery
