import SeriesQuery.Json.Reader
import SeriesQuery.Json.Writer
import SeriesQuery.Proofs.Json.Text

/-!
# Written documents are read back

A finished document of texts, flags and nulls, in arrays and objects (`IsPlain`), is the tree of the text
written for it: `parse_compact`. Each step of the reader takes one unit of fuel, and at most three steps
meet one character of the text.
-/

namespace SeriesQuery

mutual

/-- The document is finished and holds texts, flags and nulls alone. -/
def Json.IsPlain : Json → Prop
  | .null => True
  | .boolean _ => True
  | .string text => text ≠ none
  | .array items => items.IsPlain
  | .object members => members.IsPlain
  | .number _ => False
  | .cut => False

/-- So are all items, and the list of them is finished. -/
def JsonItems.IsPlain : JsonItems → Prop
  | .done => True
  | .cons item rest => item.IsPlain ∧ rest.IsPlain
  | .cut => False

/-- So are all members, each with a name, and the list of them is finished. -/
def JsonMembers.IsPlain : JsonMembers → Prop
  | .done => True
  | .cons (.string (some _)) value rest => value.IsPlain ∧ rest.IsPlain
  | .cons _ _ _ => False
  | .cut => False

end

namespace Json

/-! ## First characters -/

/-- The first characters of plain documents. -/
def openings : List Char := ['n', 't', 'f', '\"', '[', '\x7b']

/-- The first character of a tree tells its kind. -/
theorem exists_cons_of_isPlain {t : Json} (h : t.IsPlain) :
    ∃ c cs, t.write = c :: cs ∧ c ∈ openings := by
  cases t with
  | null => exact ⟨'n', _, rfl, by decide⟩
  | boolean value =>
      cases value with
      | false => exact ⟨'f', _, rfl, by decide⟩
      | true => exact ⟨'t', _, rfl, by decide⟩
  | number n => exact h.elim
  | string text =>
      obtain ⟨text, rfl⟩ := Option.ne_none_iff_exists'.1 h
      exact ⟨'\"', _, rfl, by decide⟩
  | array items => exact ⟨'[', _, rfl, by decide⟩
  | object members => exact ⟨'\x7b', _, rfl, by decide⟩
  | cut => exact h.elim

/-- No tree is written as an empty text. -/
theorem length_write_pos {t : Json} (h : t.IsPlain) : 0 < t.write.length := by
  obtain ⟨c, cs, hwrite, -⟩ := exists_cons_of_isPlain h
  rw [hwrite]
  exact Nat.succ_pos _

/-- There are no blanks in front of a written document. -/
theorem skipSpace_write {t : Json} (h : t.IsPlain) (rest : List Char) :
    skipSpace (t.write ++ rest) = t.write ++ rest := by
  have hopenings : ∀ c ∈ openings, isSpace c = false := by simp [openings, isSpace]
  obtain ⟨c, cs, hwrite, hc⟩ := exists_cons_of_isPlain h
  rw [hwrite, List.cons_append, skipSpace, List.dropWhile_cons_of_neg]
  simp [hopenings c hc]

/-! ## Steps of the reader -/

/-- A quote opens a text. -/
theorem readValue_quote (fuel : Nat) (cs : List Char) :
    readValue (fuel + 1) ('\"' :: cs) = readText cs := rfl

/-- A written text is read back, whatever follows it. -/
theorem readValue_text (text : String) (rest : List Char) (fuel : Nat) :
    readValue (fuel + 1) (writeText (some text) ++ rest) = (string (some text), some rest) := by
  obtain ⟨cs, hwrite, hread⟩ := JsonText.read?_write text rest
  have hquote : writeText (some text) = '\"' :: cs := hwrite
  rw [hquote, List.cons_append, readValue_quote, readText]
  simp only [hread]

/-- A bracket opens an array. -/
theorem readValue_bracket (fuel : Nat) (cs : List Char) :
    readValue (fuel + 1) ('[' :: cs) = (array (readItems fuel cs).1, (readItems fuel cs).2) := rfl

/-- A brace opens an object. -/
theorem readValue_brace (fuel : Nat) (cs : List Char) :
    readValue (fuel + 1) ('\x7b' :: cs) = (object (readMembers fuel cs).1, (readMembers fuel cs).2) :=
  rfl

/-- An array that goes on with a tree has one more item. -/
theorem readItems_write {t : Json} (h : t.IsPlain) (fuel : Nat) (rest : List Char) :
    readItems (fuel + 1) (t.write ++ rest) = readItem fuel (t.write ++ rest) := by
  have hopenings : ∀ c ∈ openings, c ≠ ']' := by simp [openings]
  obtain ⟨c, cs, hwrite, hc⟩ := exists_cons_of_isPlain h
  rw [readItems, skipSpace_write h, hwrite, List.cons_append]
  split
  · next heq => exact absurd (List.cons.inj heq).1 (hopenings c hc)
  · rfl

/-- An object that goes on with a text has one more member. -/
theorem readMembers_write (name : String) (fuel : Nat) (rest : List Char) :
    readMembers (fuel + 1) (writeText (some name) ++ rest) =
      readMember fuel (writeText (some name) ++ rest) := rfl

/-- An item is read, then those behind it. -/
theorem readItem_eq {item : Json} {more : JsonItems} {fuel : Nat} {cs rest : List Char}
    (hitem : readValue fuel (item.write ++ cs) = (item, some cs))
    (hmore : readMoreItems fuel cs = (more, some rest)) :
    readItem (fuel + 1) (item.write ++ cs) = (.cons item more, some rest) := by
  rw [readItem, hitem]
  simp only [hmore]

/-- A name is read, a colon, the value, then the members behind it. -/
theorem readMember_eq {value : Json} {more : JsonMembers} {fuel : Nat} {cs rest : List Char}
    (name : String) (hvalue : readValue (fuel + 1) (value.write ++ cs) = (value, some cs))
    (hmore : readMoreMembers (fuel + 1) cs = (more, some rest)) :
    readMember (fuel + 2) (writeText (some name) ++ ':' :: (value.write ++ cs)) =
      (.cons (string (some name)) value more, some rest) := by
  have hspace : skipSpace (':' :: (value.write ++ cs)) = ':' :: (value.write ++ cs) := rfl
  rw [readMember, readValue_text]
  simp only [hspace, hvalue, hmore]

/-! ## Whole documents -/

mutual

/-- A written document is read back, whatever follows it. -/
theorem readValue_write : (t : Json) → t.IsPlain → ∀ {fuel : Nat}, 3 * t.write.length ≤ fuel →
    ∀ rest, readValue fuel (t.write ++ rest) = (t, some rest)
  | .null, h, fuel, hfuel, rest => by
      have hpos := length_write_pos h
      obtain ⟨k, rfl⟩ : ∃ k, fuel = k + 1 := ⟨fuel - 1, by omega⟩
      rfl
  | .boolean value, h, fuel, hfuel, rest => by
      have hpos := length_write_pos h
      obtain ⟨k, rfl⟩ : ∃ k, fuel = k + 1 := ⟨fuel - 1, by omega⟩
      cases value <;> rfl
  | .number _, h, _, _, _ => h.elim
  | .string text, h, fuel, hfuel, rest => by
      have hpos := length_write_pos h
      obtain ⟨text, rfl⟩ := Option.ne_none_iff_exists'.1 h
      obtain ⟨k, rfl⟩ : ∃ k, fuel = k + 1 := ⟨fuel - 1, by omega⟩
      exact readValue_text text rest k
  | .array .done, _, fuel, hfuel, rest => by
      have hlength : (array .done).write.length = 2 := rfl
      obtain ⟨k, rfl⟩ : ∃ k, fuel = k + 2 := ⟨fuel - 2, by omega⟩
      rfl
  | .array (.cons item more), h, fuel, hfuel, rest => by
      have hpos := length_write_pos h.1
      simp only [write, writeItems, List.nil_append, List.length_cons, List.length_append] at hfuel
      obtain ⟨k, rfl⟩ : ∃ k, fuel = k + 3 := ⟨fuel - 3, by omega⟩
      have hitem := readValue_write item h.1 (by omega : 3 * item.write.length ≤ k)
        (writeItems [','] more ++ rest)
      have hmore := readMoreItems_write more h.2
        (by omega : 3 * (writeItems [','] more).length ≤ k) rest
      simp only [write, writeItems, List.nil_append, List.cons_append, List.append_assoc]
      rw [readValue_bracket, readItems_write h.1, readItem_eq hitem hmore]
  | .array .cut, h, _, _, _ => h.elim
  | .object .done, _, fuel, hfuel, rest => by
      have hlength : (object .done).write.length = 2 := rfl
      obtain ⟨k, rfl⟩ : ∃ k, fuel = k + 2 := ⟨fuel - 2, by omega⟩
      rfl
  | .object (.cons (.string (some name)) value more), h, fuel, hfuel, rest => by
      have hpos := length_write_pos h.1
      simp only [write, writeMembers, List.nil_append, List.length_cons, List.length_append] at hfuel
      obtain ⟨k, rfl⟩ : ∃ k, fuel = k + 4 := ⟨fuel - 4, by omega⟩
      have hvalue := readValue_write value h.1 (by omega : 3 * value.write.length ≤ k + 1)
        (writeMembers [','] more ++ rest)
      have hmore := readMoreMembers_write more h.2
        (by omega : 3 * (writeMembers [','] more).length ≤ k + 1) rest
      simp only [write, writeMembers, List.nil_append, List.cons_append, List.append_assoc]
      rw [readValue_brace, readMembers_write, readMember_eq name hvalue hmore]
  | .cut, h, _, _, _ => h.elim

/-- The items behind an item are read back. -/
theorem readMoreItems_write : (items : JsonItems) → items.IsPlain → ∀ {fuel : Nat},
    3 * (writeItems [','] items).length ≤ fuel →
    ∀ rest, readMoreItems fuel (writeItems [','] items ++ rest) = (items, some rest)
  | .done, _, fuel, hfuel, rest => by
      have hlength : (writeItems [','] .done).length = 1 := rfl
      obtain ⟨k, rfl⟩ : ∃ k, fuel = k + 1 := ⟨fuel - 1, by omega⟩
      rfl
  | .cons item more, h, fuel, hfuel, rest => by
      simp only [writeItems, List.length_cons, List.length_append, List.length_nil] at hfuel
      obtain ⟨k, rfl⟩ : ∃ k, fuel = k + 2 := ⟨fuel - 2, by omega⟩
      have hitem := readValue_write item h.1 (by omega : 3 * item.write.length ≤ k)
        (writeItems [','] more ++ rest)
      have hmore := readMoreItems_write more h.2
        (by omega : 3 * (writeItems [','] more).length ≤ k) rest
      have hcomma : ∀ cs, readMoreItems (k + 2) (',' :: cs) = readItem (k + 1) cs := fun _ => rfl
      simp only [writeItems, List.nil_append, List.cons_append, List.append_assoc]
      rw [hcomma, readItem_eq hitem hmore]
  | .cut, h, _, _, _ => h.elim

/-- The members behind a member are read back. -/
theorem readMoreMembers_write : (members : JsonMembers) → members.IsPlain → ∀ {fuel : Nat},
    3 * (writeMembers [','] members).length ≤ fuel →
    ∀ rest, readMoreMembers fuel (writeMembers [','] members ++ rest) = (members, some rest)
  | .done, _, fuel, hfuel, rest => by
      have hlength : (writeMembers [','] .done).length = 1 := rfl
      obtain ⟨k, rfl⟩ : ∃ k, fuel = k + 1 := ⟨fuel - 1, by omega⟩
      rfl
  | .cons (.string (some name)) value more, h, fuel, hfuel, rest => by
      simp only [writeMembers, List.length_cons, List.length_append, List.length_nil] at hfuel
      obtain ⟨k, rfl⟩ : ∃ k, fuel = k + 3 := ⟨fuel - 3, by omega⟩
      have hvalue := readValue_write value h.1 (by omega : 3 * value.write.length ≤ k + 1)
        (writeMembers [','] more ++ rest)
      have hmore := readMoreMembers_write more h.2
        (by omega : 3 * (writeMembers [','] more).length ≤ k + 1) rest
      have hcomma : ∀ cs, readMoreMembers (k + 3) (',' :: cs) = readMember (k + 2) cs :=
        fun _ => rfl
      simp only [write, writeMembers, List.nil_append, List.cons_append, List.append_assoc]
      rw [hcomma, readMember_eq name hvalue hmore]
  | .cut, h, _, _, _ => h.elim

end

/-- The tree of a written text is the document, and nothing follows it. -/
theorem parse_compact {t : Json} (h : t.IsPlain) : parse t.compact = (t, true) := by
  have hread := readValue_write t h (Nat.le_add_right (3 * t.write.length) 3) []
  rw [List.append_nil] at hread
  simp only [parse, compact, String.toList_ofList, hread]
  rfl

end Json

end SeriesQuery
