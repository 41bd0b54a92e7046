import SeriesQuery.Json.Number
import SeriesQuery.Json.Text

/-!
# Reading JSON

From a text to its tree. Reading stops at the first place where the text is not JSON; there is no rest
then.
-/

namespace SeriesQuery.Json

/-- The blanks of JSON. -/
def isSpace (c : Char) : Bool := c == ' ' || c == '\n' || c == '\t' || c == '\r'

/-- The text without its leading blanks. -/
def skipSpace (cs : List Char) : List Char := cs.dropWhile isSpace

/-- The number at the front of the text, if there is one. -/
def readNumber (cs : List Char) : Json × Option (List Char) :=
  match JsonNumber.readLexeme? cs with
  | some (lexeme, rest) => (number (JsonNumber.ofLexeme? lexeme), some rest)
  | none => (cut, none)

/-- The string after its opening quote. -/
def readText (cs : List Char) : Json × Option (List Char) :=
  match JsonText.read? (some []) cs with
  | some (text, rest) => (string text, some rest)
  | none => (cut, none)

mutual

/-- The value at the front of the text, and the text after it. -/
def readValue : (fuel : Nat) → List Char → Json × Option (List Char)
  | 0, _ => (cut, none)
  | fuel + 1, cs =>
    match skipSpace cs with
    | 'n' :: 'u' :: 'l' :: 'l' :: rest => (null, some rest)
    | 't' :: 'r' :: 'u' :: 'e' :: rest => (boolean true, some rest)
    | 'f' :: 'a' :: 'l' :: 's' :: 'e' :: rest => (boolean false, some rest)
    | '\"' :: rest => readText rest
    | '[' :: rest =>
      let (items, after) := readItems fuel rest
      (array items, after)
    | '\x7b' :: rest =>
      let (members, after) := readMembers fuel rest
      (object members, after)
    | cs => readNumber cs

/-- The items after an opening bracket. -/
def readItems : (fuel : Nat) → List Char → JsonItems × Option (List Char)
  | 0, _ => (.cut, none)
  | fuel + 1, cs =>
    match skipSpace cs with
    | ']' :: rest => (.done, some rest)
    | cs => readItem fuel cs

/-- An item and those that follow it. -/
def readItem : (fuel : Nat) → List Char → JsonItems × Option (List Char)
  | 0, _ => (.cut, none)
  | fuel + 1, cs =>
    match readValue fuel cs with
    | (item, none) => (.cons item .cut, none)
    | (item, some rest) =>
      let (items, after) := readMoreItems fuel rest
      (.cons item items, after)

/-- The items after an item. -/
def readMoreItems : (fuel : Nat) → List Char → JsonItems × Option (List Char)
  | 0, _ => (.cut, none)
  | fuel + 1, cs =>
    match skipSpace cs with
    | ']' :: rest => (.done, some rest)
    | ',' :: rest => readItem fuel rest
    | _ => (.cut, none)

/-- The members after an opening brace. -/
def readMembers : (fuel : Nat) → List Char → JsonMembers × Option (List Char)
  | 0, _ => (.cut, none)
  | fuel + 1, cs =>
    match skipSpace cs with
    | '\x7d' :: rest => (.done, some rest)
    | cs => readMember fuel cs

/-- A member and those that follow it. -/
def readMember : (fuel : Nat) → List Char → JsonMembers × Option (List Char)
  | 0, _ => (.cut, none)
  | fuel + 1, cs =>
    match readValue fuel cs with
    | (string name, some rest) =>
      match skipSpace rest with
      | ':' :: rest =>
        match readValue fuel rest with
        | (value, none) => (.cons (string name) value .cut, none)
        | (value, some rest) =>
          let (members, after) := readMoreMembers fuel rest
          (.cons (string name) value members, after)
      | _ => (.cons (string name) cut .cut, none)
    | (name, _) => (.cons name cut .cut, none)

/-- The members after a member. -/
def readMoreMembers : (fuel : Nat) → List Char → JsonMembers × Option (List Char)
  | 0, _ => (.cut, none)
  | fuel + 1, cs =>
    match skipSpace cs with
    | '\x7d' :: rest => (.done, some rest)
    | ',' :: rest => readMember fuel rest
    | _ => (.cut, none)

end

/-- The tree of a text, and whether the text holds nothing else. Every step of the reading but two takes
a character, so three times the length is fuel enough. -/
def parse (text : String) : Json × Bool :=
  let cs := text.toList
  let (tree, after) := readValue (3 * cs.length + 3) cs
  (tree, (after.map fun rest => (skipSpace rest).isEmpty).getD false)

end SeriesQuery.Json
