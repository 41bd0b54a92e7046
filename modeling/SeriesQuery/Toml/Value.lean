/-!
# TOML documents

The values of a document. A table remembers how it came to be, since that decides what may still be added
to it.
-/

namespace SeriesQuery.Toml

/-- How a table came to be. -/
inductive Form where
  /-- Written between braces; complete. -/
  | inline
  /-- Opened by a header of its own. -/
  | header
  /-- Needed by the header of another table. -/
  | implied
  /-- Needed by a dotted key. -/
  | dotted
  deriving DecidableEq, Repr

/-- A value. Numbers with fraction or exponent, and dates and times, are known by their kind only. -/
inductive Value where
  | string (text : String)
  | integer (n : Int)
  | real
  | boolean (value : Bool)
  | dateTime
  | array (items : List Value)
  | table (form : Form) (entries : List (String × Value))
  | tables (items : List (List (String × Value)))

/-- Keys and their values, in the order of the document. -/
abbrev Entries := List (String × Value)

namespace Entries

/-- The entries with the value of a key replaced, or added at the end. -/
def put (entries : Entries) (key : String) (value : Value) : Entries :=
  if (entries.lookup key).isSome then
    entries.map fun (k, v) => if k = key then (k, value) else (k, v)
  else entries ++ [(key, value)]

/-- The entries without a key. -/
def erase (entries : Entries) (key : String) : Entries := entries.filter (·.1 ≠ key)

/-- Changes the table at the end of a path. Tables that are missing on the way are added, as dotted or as
implied ones. In an array of tables the way goes through the last. Dotted keys do not reach into tables
that have a header, and nothing reaches into inline tables. -/
def changeAt {β : Type} (dotted : Bool) (change : Form → Entries → Option (Entries × β))
    (form : Form) (entries : Entries) : (path : List String) → Option (Entries × β)
  | [] => change form entries
  | key :: path =>
    match entries.lookup key with
    | none => do
      let added := if dotted then Form.dotted else Form.implied
      let (inner, result) ← changeAt dotted change added [] path
      return (entries.put key (.table added inner), result)
    | some (.table innerForm inner) =>
      if innerForm = .inline ∨ (dotted ∧ innerForm = .header) then none
      else do
        let (inner, result) ← changeAt dotted change innerForm inner path
        return (entries.put key (.table innerForm inner), result)
    | some (.tables items) => do
      let last ← items.getLast?
      let (inner, result) ← changeAt dotted change .header last path
      return (entries.put key (.tables (items.dropLast ++ [inner])), result)
    | some _ => none

/-- Adds a value under a dotted key, given as path and last part. The key is new, and a table that dotted
keys made takes only dotted keys. -/
def define (form : Form) (entries : Entries) (path : List String) (key : String) (value : Value) :
    Option Entries :=
  let add (form : Form) (entries : Entries) : Option (Entries × Unit) :=
    if decide (form = .dotted) = path.isEmpty then none
    else if (entries.lookup key).isSome then none
    else some (entries ++ [(key, value)], ())
  (changeAt true add form entries path).map (·.1)

end Entries

end SeriesQuery.Toml
