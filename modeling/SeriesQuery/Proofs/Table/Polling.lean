import SeriesQuery.Proofs.Table.Rows

/-!
# Polling a cursor

What a consumer sees that calls `next` again and again, also behind the end. One call takes the records up
to the one that its item is about and leaves the others as they are (`exists_of_next_eq_some`). Over all
calls the answers are rows, then at most one error, then nothing (`exists_ends_ofBytes`).
-/

namespace SeriesQuery

namespace Cursor

open Layout

/-- The cursor after `n` calls. -/
def advance (c : Cursor) : Nat → Cursor
  | 0 => c
  | n + 1 => c.next.2.advance n

/-- The answer to call `n`, counted from 0. -/
def answer (c : Cursor) (n : Nat) : Option (Except StoreError Row) := (c.advance n).next.1

/-- The calls give the rows, then the error, if there is one, then nothing. -/
structure Ends (c : Cursor) (rows : List Row) (fault : Option StoreError) : Prop where
  answer : ∀ n, c.answer n = (rows.map .ok ++ (fault.map .error).toList)[n]?
  /-- Without an error no record is bad, and each record of a row has given its row. -/
  whole : fault = none → ∃ records : List Record, c.records = records.map .ok ∧
    rows.length = records.countP isRow
  /-- An error is about one record. Those before it give the rows alone, and those behind it are left as
  they are and change no answer. -/
  culprit : fault ≠ none → ∃ before last rest, c.records = before ++ last :: rest ∧
    (∀ n, { c with records := before }.answer n = (rows.map .ok)[n]?) ∧
    (∀ n, rows.length < n → (c.advance n).records = rest) ∧
    ∀ others n, { c with records := before ++ last :: others }.answer n = c.answer n

/-! ## One call -/

/-- A cursor that has ended gives nothing more. -/
theorem next_of_ended {c : Cursor} (h : c.ended = true) : c.next = (none, c) := if_pos h

/-- One that has not goes on with its records. -/
theorem next_of_not_ended {c : Cursor} (h : c.ended = false) :
    c.next = nextFrom c.layout c.records := by
  rw [next, h]
  rfl

/-- Only a cursor that has not ended gives an item. -/
theorem not_ended_of_next_eq_some {c d : Cursor} {item : Except StoreError Row}
    (h : c.next = (some item, d)) : c.ended = false := by
  cases hended : c.ended with
  | false => rfl
  | true =>
      rw [next_of_ended hended] at h
      exact nomatch h

theorem next_nil (l : Layout) : next { records := [], layout := l } =
    (none, { records := [], layout := l }) := rfl

/-- A call without an item has read all records. -/
theorem eq_of_nextFrom_eq_none {l : Layout} {records : List (Except FramingFault Record)} {d : Cursor}
    (h : nextFrom l records = (none, d)) : d = { records := [], layout := d.layout } := by
  fun_induction nextFrom l records with
  | case1 =>
      cases h
      rfl
  | case2 => cases h
  | case3 l record rest hremark ih => exact ih h
  | case4 l record rest hremark hheader ih => exact ih h
  | case5 => cases h
  | case6 => cases h

/-- Behind the end every call answers the same. -/
theorem next_of_next_eq_none {c d : Cursor} (h : c.next = (none, d)) : d.next = (none, d) := by
  cases hended : c.ended with
  | true =>
      rw [next_of_ended hended] at h
      cases h
      exact next_of_ended hended
  | false =>
      rw [next_of_not_ended hended] at h
      rw [eq_of_nextFrom_eq_none h]
      exact next_nil d.layout

/-- An item is about the last record that its call takes. The records before it give no item, and those
behind it do not matter and are still to come. -/
theorem exists_of_nextFrom_eq_some {l : Layout} {records : List (Except FramingFault Record)}
    {item : Except StoreError Row} {d : Cursor} (h : nextFrom l records = (some item, d)) :
    ∃ before last, records = before ++ last :: d.records ∧ (nextFrom l before).1 = none ∧
      ∀ others, nextFrom l (before ++ last :: others) = (some item, { d with records := others }) := by
  induction records generalizing l with
  | nil => exact nomatch h
  | cons r rest ih =>
      -- the call stops at this record, or goes on behind it under the layout that it leaves
      cases r with
      | error fault =>
          cases h
          exact ⟨[], .error fault, rfl, rfl, fun others => rfl⟩
      | ok record =>
          cases hrow : isRow record with
          | false =>
              rw [nextFrom_of_not_isRow hrow] at h
              obtain ⟨before, last, hrest, hnone, hothers⟩ := ih h
              refine ⟨.ok record :: before, last, ?_, ?_, fun others => ?_⟩
              · rw [hrest, List.cons_append]
              · rw [nextFrom_of_not_isRow hrow]
                exact hnone
              · rw [List.cons_append, nextFrom_of_not_isRow hrow]
                exact hothers others
          | true =>
              cases hitem : l.row record with
              | ok row =>
                  rw [nextFrom_of_row_eq_ok hrow hitem] at h
                  cases h
                  exact ⟨[], .ok record, rfl, rfl, fun others => nextFrom_of_row_eq_ok hrow hitem⟩
              | error e =>
                  rw [nextFrom_of_row_eq_error hrow hitem] at h
                  cases h
                  exact ⟨[], .ok record, rfl, rfl, fun others => nextFrom_of_row_eq_error hrow hitem⟩

/-- An item comes from the last of the records that are taken for it. -/
theorem exists_of_next_eq_some {c d : Cursor} {item : Except StoreError Row}
    (h : c.next = (some item, d)) :
    ∃ before last, c.records = before ++ last :: d.records ∧
      { c with records := before }.next.1 = none ∧
      ∀ others, { c with records := before ++ last :: others }.next =
        (some item, { d with records := others }) := by
  have hended := not_ended_of_next_eq_some h
  have hnext : ∀ records, { c with records := records }.next = nextFrom c.layout records :=
    fun _ => next_of_not_ended hended
  rw [next_of_not_ended hended] at h
  obtain ⟨before, last, hrecords, hnone, hothers⟩ := exists_of_nextFrom_eq_some h
  refine ⟨before, last, hrecords, ?_, fun others => ?_⟩
  · rw [hnext]
    exact hnone
  · rw [hnext]
    exact hothers others

/-- An error ends the cursor. -/
theorem ended_of_nextFrom_eq_error {l : Layout} {records : List (Except FramingFault Record)}
    {e : StoreError} {d : Cursor} (h : nextFrom l records = (some (.error e), d)) : d.ended = true := by
  fun_induction nextFrom l records with
  | case1 => cases h
  | case2 =>
      cases h
      rfl
  | case3 l record rest hremark ih => exact ih h
  | case4 l record rest hremark hheader ih => exact ih h
  | case5 => cases h
  | case6 =>
      cases h
      rfl

/-- An error ends the cursor. -/
theorem ended_of_next_eq_error {c d : Cursor} {e : StoreError} (h : c.next = (some (.error e), d)) :
    d.ended = true := by
  rw [next_of_not_ended (not_ended_of_next_eq_some h)] at h
  exact ended_of_nextFrom_eq_error h

/-! ## All calls -/

/-- Where nothing comes, nothing is left. -/
theorem toList_of_next_eq_none {c d : Cursor} (h : c.next = (none, d)) : c.toList = [] := by
  rw [toList_eq, h]

/-- The items are the next one and the rest. -/
theorem toList_of_next_eq_some {c d : Cursor} {item : Except StoreError Row}
    (h : c.next = (some item, d)) : c.toList = item :: d.toList := by
  rw [toList_eq, h]

/-- To go on twice is to go on once by the sum. -/
theorem advance_add (c : Cursor) (m n : Nat) : c.advance (m + n) = (c.advance m).advance n := by
  induction m generalizing c with
  | zero => rw [Nat.zero_add, advance]
  | succ m ih => rw [Nat.succ_add, advance, ih, advance]

/-- A cursor that has ended stays as it is. -/
theorem advance_of_ended {c : Cursor} (h : c.ended = true) (n : Nat) : c.advance n = c := by
  induction n with
  | zero => rfl
  | succ n ih => rw [advance, next_of_ended h, ih]

/-- The calls answer the items one after the other, then nothing. -/
theorem answer_eq (c : Cursor) (n : Nat) : c.answer n = c.toList[n]? := by
  induction n generalizing c with
  | zero =>
      rw [answer, advance, toList_eq]
      obtain ⟨_ | item, d⟩ := c.next <;> rfl
  | succ n ih =>
      have hstep : c.answer (n + 1) = c.next.2.toList[n]? := by
        rw [← ih, answer, answer, advance]
      rw [hstep]
      cases hnext : c.next with
      | mk first d =>
          cases first with
          | none =>
              rw [toList_of_next_eq_none hnext, toList_of_next_eq_none (next_of_next_eq_none hnext)]
              rfl
          | some item => rw [toList_of_next_eq_some hnext, List.getElem?_cons_succ]

/-- The items are rows, and at most one error behind them. -/
theorem exists_toList_eq (c : Cursor) :
    ∃ (rows : List Row) (fault : Option StoreError),
      c.toList = rows.map .ok ++ (fault.map .error).toList := by
  induction c using toList.induct with
  | case1 c d h => exact ⟨[], none, toList_of_next_eq_none h⟩
  | case2 c item d h ih =>
      rw [toList_of_next_eq_some h]
      cases item with
      | error e =>
          rw [toList_of_ended (ended_of_next_eq_error h)]
          exact ⟨[], some e, rfl⟩
      | ok row =>
          obtain ⟨rows, fault, hrest⟩ := ih
          exact ⟨row :: rows, fault, by rw [hrest]; rfl⟩

/-- The first of the items comes next, and leaves the others. -/
theorem exists_next_of_toList_eq_cons {c : Cursor} {item : Except StoreError Row}
    {items : List (Except StoreError Row)} (h : c.toList = item :: items) :
    ∃ d, c.next = (some item, d) ∧ d.toList = items := by
  cases hnext : c.next with
  | mk first d =>
      cases first with
      | none =>
          rw [toList_of_next_eq_none hnext] at h
          exact nomatch h
      | some first =>
          rw [toList_of_next_eq_some hnext] at h
          obtain ⟨rfl, hitems⟩ := List.cons.inj h
          exact ⟨d, rfl, hitems⟩

theorem toList_of_next_fst_eq_none {c : Cursor} (h : c.next.1 = none) : c.toList = [] :=
  toList_of_next_eq_none (Prod.ext h rfl)

/-- The error among the items is about one record. Those before it give the other items, and those behind
it do not matter and are left as they are. -/
theorem exists_of_toList_eq {c : Cursor} {rows : List Row} {e : StoreError}
    (h : c.toList = rows.map .ok ++ [.error e]) :
    ∃ before last, c.records = before ++ last :: (c.advance (rows.length + 1)).records ∧
      (c.advance (rows.length + 1)).ended = true ∧
      { c with records := before }.toList = rows.map .ok ∧
      ∀ others, { c with records := before ++ last :: others }.toList = c.toList := by
  -- each row takes some records in front; the last call takes the others up to the culprit
  induction rows generalizing c with
  | nil =>
      obtain ⟨d, hnext, -⟩ := exists_next_of_toList_eq_cons h
      obtain ⟨before, last, hrecords, hnone, hothers⟩ := exists_of_next_eq_some hnext
      have hended := ended_of_next_eq_error hnext
      have hd : c.advance 1 = d := by rw [advance, hnext, advance]
      refine ⟨before, last, ?_, ?_, toList_of_next_fst_eq_none hnone, fun others => ?_⟩
      · rw [List.length_nil, Nat.zero_add, hd, hrecords]
      · rw [List.length_nil, Nat.zero_add, hd, hended]
      · have hempty : { d with records := others }.toList = [] := toList_of_ended hended
        rw [toList_of_next_eq_some (hothers others), hempty, h]
        rfl
  | cons row rows ih =>
      obtain ⟨d, hnext, hd⟩ := exists_next_of_toList_eq_cons h
      obtain ⟨first, taken, hrecords, -, hothers⟩ := exists_of_next_eq_some hnext
      obtain ⟨before, last, hrest, hended, hbefore, hlast⟩ := ih hd
      have hadvance : c.advance ((row :: rows).length + 1) = d.advance (rows.length + 1) := by
        rw [List.length_cons, advance, hnext]
      refine ⟨first ++ taken :: before, last, ?_, ?_, ?_, fun others => ?_⟩
      · rw [hadvance, hrecords, List.append_assoc, List.cons_append, ← hrest]
      · rw [hadvance, hended]
      · rw [toList_of_next_eq_some (hothers before), hbefore, List.map_cons]
      · rw [List.append_assoc, List.cons_append, toList_of_next_eq_some (hothers _), hlast others, hd, h]
        rfl

/-! ## All records of a source -/

/-- Without an error among the items no record is bad. -/
theorem exists_map_ok_of_noError {l : Layout} {records : List (Except FramingFault Record)}
    (h : NoError (rowsFrom l records)) : ∃ sound : List Record, records = sound.map .ok := by
  induction records generalizing l with
  | nil => exact ⟨[], rfl⟩
  | cons r rest ih =>
      cases r with
      | error fault =>
          rw [rowsFrom_error] at h
          exact absurd List.mem_cons_self (h _)
      | ok record =>
          have hrest : ∃ l', NoError (rowsFrom l' rest) := by
            cases hrow : isRow record with
            | false => exact ⟨_, rowsFrom_of_not_isRow hrow ▸ h⟩
            | true =>
                cases hitem : l.row record with
                | ok row =>
                    rw [rowsFrom_of_row_eq_ok hrow hitem] at h
                    exact ⟨l, fun e he => h e (List.mem_cons_of_mem _ he)⟩
                | error e =>
                    rw [rowsFrom_of_row_eq_error hrow hitem] at h
                    exact absurd List.mem_cons_self (h e)
          obtain ⟨l', hl'⟩ := hrest
          obtain ⟨sound, rfl⟩ := ih hl'
          exact ⟨record :: sound, rfl⟩

/-- Rows are no errors. -/
theorem noError_map_ok (rows : List Row) : NoError (rows.map .ok) := by
  intro e he
  obtain ⟨row, -, hrow⟩ := List.mem_map.1 he
  exact nomatch hrow

/-- A source that fails reports so as a bad record. -/
theorem unreadable_mem_recordsFrom (reason : String) (s : Framing.State) (bytes : List UInt8) :
    .error (.unreadable reason) ∈ Framing.recordsFrom (some reason) s bytes := by
  induction bytes generalizing s with
  | nil => exact List.mem_singleton_self _
  | cons b rest ih =>
      simp only [Framing.recordsFrom]
      split
      · exact List.mem_cons_of_mem _ (ih _)
      · exact ih _

/-- Bytes that break off have a record that cannot be read. -/
theorem unreadable_mem_records (bytes : List UInt8) (reason : String) :
    .error (.unreadable reason) ∈ (ofBytes bytes (some reason)).records :=
  unreadable_mem_recordsFrom reason _ _

/-- Every cursor that has not ended gives rows, then at most one error, then nothing. -/
theorem exists_ends {c : Cursor} (h : c.ended = false) : ∃ rows fault, c.Ends rows fault := by
  obtain ⟨rows, fault, hitems⟩ := exists_toList_eq c
  refine ⟨rows, fault, fun n => ?_, fun hnone => ?_, fun hsome => ?_⟩
  · rw [answer_eq, hitems]
  · have hrows : rowsFrom c.layout c.records = rows.map .ok := by
      have hc : c = { records := c.records, layout := c.layout } := by rw [← h]
      rw [rowsFrom, ← hc, hitems, hnone]
      exact List.append_nil _
    have hok : NoError (rowsFrom c.layout c.records) := hrows ▸ noError_map_ok rows
    obtain ⟨sound, hsound⟩ := exists_map_ok_of_noError hok
    rw [hsound] at hok hrows
    refine ⟨sound, hsound, ?_⟩
    rw [← (reads_of_noError hok).length, hrows, List.length_map]
  · obtain ⟨e, rfl⟩ := Option.ne_none_iff_exists'.1 hsome
    obtain ⟨before, last, hrecords, hended, hbefore, hlast⟩ := exists_of_toList_eq hitems
    refine ⟨before, last, _, hrecords, fun n => ?_, fun n hn => ?_, fun others n => ?_⟩
    · rw [answer_eq, hbefore]
    · obtain ⟨k, rfl⟩ := Nat.exists_eq_add_of_le hn
      rw [Nat.succ_eq_add_one, advance_add, advance_of_ended hended]
    · rw [answer_eq, answer_eq, hlast others]

/-- Polling a source of bytes, whether it fails or not, gives rows, then at most one error, then nothing.
A source that fails gives an error. -/
theorem exists_ends_ofBytes (bytes : List UInt8) (failure : Option String) :
    ∃ rows fault, (ofBytes bytes failure).Ends rows fault ∧ (failure ≠ none → fault ≠ none) := by
  obtain ⟨rows, fault, hends⟩ := exists_ends (c := ofBytes bytes failure) rfl
  refine ⟨rows, fault, hends, fun hfailure hnone => ?_⟩
  obtain ⟨reason, rfl⟩ := Option.ne_none_iff_exists'.1 hfailure
  obtain ⟨sound, hsound, -⟩ := hends.whole hnone
  have hbad := unreadable_mem_records bytes reason
  rw [hsound] at hbad
  obtain ⟨record, -, hrecord⟩ := List.mem_map.1 hbad
  exact nomatch hrecord

end Cursor

end SeriesQuery
