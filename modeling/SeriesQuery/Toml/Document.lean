import SeriesQuery.Toml.Scalar

/-!
# Reading TOML

From a text to its table. Headers open tables; the keys that follow belong to the table opened last, which
joins the document when the next one opens.
-/

namespace SeriesQuery.Toml

open Text

/-- The text after the end of a line. -/
def lineEnd? : List Char → Option (List Char)
  | '\n' :: rest => some rest
  | '\r' :: '\n' :: rest => some rest
  | _ => none

/-- The text after a comment, at the end of its line. -/
def skipComment (cs : List Char) : List Char :=
  match cs with
  | '#' :: rest => rest.dropWhile isPlain
  | _ => cs

/-- The text after blanks, a comment and the end of the line or of the text. -/
def endLine? (cs : List Char) : Option (List Char) :=
  match skipComment (skipSpace cs) with
  | [] => some []
  | rest => lineEnd? rest

/-- The text after blanks, comments and line ends. -/
def skipLines : (fuel : Nat) → List Char → List Char
  | 0, cs => cs
  | fuel + 1, cs =>
    let rest := skipSpace cs
    match lineEnd? (skipComment rest) with
    | some next => skipLines fuel next
    | none => rest

/-- A character of keys without quotes. -/
def isKeyChar (c : Char) : Bool := c.isAlphanum || c == '-' || c == '_'

/-- One part of a key. -/
def readSimpleKey? : List Char → Option (String × List Char)
  | '\"' :: rest => basicString [] rest
  | '\x27' :: rest => literalString [] rest
  | cs =>
    let run := cs.takeWhile isKeyChar
    if run.isEmpty then none else some (String.ofList run, cs.drop run.length)

/-- The parts of a dotted key; blanks may stand around them. -/
def readKey? : (fuel : Nat) → List Char → Option (List String × List Char)
  | 0, _ => none
  | fuel + 1, cs => do
    let (part, rest) ← readSimpleKey? (skipSpace cs)
    match skipSpace rest with
    | '.' :: rest =>
      let (parts, rest) ← readKey? fuel rest
      return (part :: parts, rest)
    | rest => return ([part], rest)

/-- Values nest, and keys are dotted, less than this often. -/
def depthLimit : Nat := 80

/-- The path of a key and its last part. -/
def readPath? (cs : List Char) : Option (List String × String × List Char) := do
  let (parts, rest) ← readKey? cs.length cs
  let key ← parts.getLast?
  if parts.length < depthLimit then return (parts.dropLast, key, rest) else none

mutual

/-- The value at the front of the text, inside `depth` other values. -/
def readValue? : (fuel depth : Nat) → List Char → Option (Value × List Char)
  | 0, _, _ => none
  | fuel + 1, depth, cs =>
    match cs with
    | '[' :: rest =>
      if depth + 1 < depthLimit then
        (readItems? fuel (depth + 1) rest).map fun (items, rest) => (.array items, rest)
      else none
    | '\x7b' :: rest =>
      if depth + 1 < depthLimit then
        match skipSpace rest with
        | '\x7d' :: rest => some (.table .inline [], rest)
        | rest => (readEntries? fuel (depth + 1) [] rest).map fun (entries, rest) =>
          (.table .inline entries, rest)
      else none
    | 't' :: 'r' :: 'u' :: 'e' :: rest => some (.boolean true, rest)
    | 'f' :: 'a' :: 'l' :: 's' :: 'e' :: rest => some (.boolean false, rest)
    | '\"' :: _ => (readString? cs).map fun (text, rest) => (.string text, rest)
    | '\x27' :: _ => (readString? cs).map fun (text, rest) => (.string text, rest)
    | _ => quantity cs

/-- The items of an array and its closing bracket. A comma may follow the last item. -/
def readItems? : (fuel depth : Nat) → List Char → Option (List Value × List Char)
  | 0, _, _ => none
  | fuel + 1, depth, cs =>
    match skipLines cs.length cs with
    | ']' :: rest => some ([], rest)
    | cs =>
      match readValue? fuel depth cs with
      | none => none
      | some (item, rest) =>
        match skipLines rest.length rest with
        | ',' :: rest => (readItems? fuel depth rest).map fun (items, rest) => (item :: items, rest)
        | ']' :: rest => some ([item], rest)
        | _ => none

/-- The entries of an inline table, after those read already, and its closing brace. -/
def readEntries? : (fuel depth : Nat) → Entries → List Char → Option (Entries × List Char)
  | 0, _, _, _ => none
  | fuel + 1, depth, before, cs =>
    match readPath? cs with
    | some (path, key, '=' :: rest) =>
      match readValue? fuel depth (skipSpace rest) with
      | none => none
      | some (value, rest) =>
        match before.define .inline path key value, skipSpace rest with
        | some entries, ',' :: rest => readEntries? fuel depth entries rest
        | some entries, '\x7d' :: rest => some (entries, rest)
        | _, _ => none
    | _ => none

end

/-- Where the keys that follow a header go. -/
inductive Target where
  | root
  | table (path : List String) (key : String)
  | element (path : List String) (key : String)

/-- A document in the making: the finished tables, and the one that is open. -/
structure Draft where
  root : Entries := []
  target : Target := .root
  current : Entries := []

namespace Draft

/-- The document with the open table in its place. -/
def close (d : Draft) : Option Entries :=
  match d.target with
  | .root => some d.current
  | .table path key =>
    let add (_ : Form) (entries : Entries) : Option (Entries × Unit) :=
      if (entries.lookup key).isSome then none
      else some (entries ++ [(key, .table .header d.current)], ())
    (Entries.changeAt false add .header d.root path).map (·.1)
  | .element path key =>
    let add (_ : Form) (entries : Entries) : Option (Entries × Unit) :=
      match entries.lookup key with
      | none => some (entries ++ [(key, .tables [d.current])], ())
      | some (.tables items) => some (entries.put key (.tables (items ++ [d.current])), ())
      | some _ => none
    (Entries.changeAt false add .header d.root path).map (·.1)

/-- Opens a table. What the headers of its subtables have put there stays; otherwise it is new. -/
def openTable (d : Draft) (path : List String) (key : String) : Option Draft := do
  let root ← d.close
  let take (_ : Form) (entries : Entries) : Option (Entries × Entries) :=
    match entries.lookup key with
    | none => some (entries, [])
    | some (.table .implied inner) => some (entries.erase key, inner)
    | some _ => none
  let (root, current) ← Entries.changeAt false take .header root path
  return ⟨root, .table path key, current⟩

/-- Opens one more element of an array of tables. -/
def openElement (d : Draft) (path : List String) (key : String) : Option Draft := do
  let root ← d.close
  return ⟨root, .element path key, []⟩

/-- Adds a key to the open table. -/
def define (d : Draft) (path : List String) (key : String) (value : Value) : Option Draft := do
  let current ← Entries.define .header d.current path key value
  return { d with current := current }

end Draft

/-- One header, key or empty line, and the text after it. -/
def readLine? (d : Draft) (cs : List Char) : Option (Draft × List Char) :=
  match cs with
  | '[' :: '[' :: rest => do
    let (path, key, rest) ← readPath? rest
    match rest with
    | ']' :: ']' :: rest => return (← d.openElement path key, ← endLine? rest)
    | _ => none
  | '[' :: rest => do
    let (path, key, rest) ← readPath? rest
    match rest with
    | ']' :: rest => return (← d.openTable path key, ← endLine? rest)
    | _ => none
  | '#' :: _ => (endLine? cs).map (d, ·)
  | '\n' :: rest => some (d, rest)
  | '\r' :: '\n' :: rest => some (d, rest)
  | _ => do
    let (path, key, rest) ← readPath? cs
    match rest with
    | '=' :: rest =>
      let (value, rest) ← readValue? (2 * rest.length + 2) 0 (skipSpace rest)
      return (← d.define path key value, ← endLine? rest)
    | _ => none

/-- The document from a draft and the lines to come. -/
def readLines? : (fuel : Nat) → Draft → List Char → Option Entries
  | 0, _, _ => none
  | fuel + 1, d, cs =>
    match skipSpace cs with
    | [] => d.close
    | cs =>
      match readLine? d cs with
      | some (next, rest) => readLines? fuel next rest
      | none => none

/-- The text without a byte order mark. -/
def dropMark : List Char → List Char
  | '\ufeff' :: rest => rest
  | cs => cs

/-- The table of a text. -/
def parse? (text : String) : Option Entries :=
  let cs := dropMark text.toList
  readLines? (cs.length + 1) {} cs

end SeriesQuery.Toml
