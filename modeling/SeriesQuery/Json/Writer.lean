import SeriesQuery.Json.Text
import SeriesQuery.Json.Tree
import SeriesQuery.Number.Shortest

/-!
# Writing JSON

A tree as text, without blanks or over several lines. A part that was cut off is written up to the place
where it was cut off, and a part without a value as a text without one.
-/

namespace SeriesQuery.Json

/-- A number as text. Numbers that are none and infinities are written as null. -/
def writeNumber : Option JsonNumber → List Char
  | none => "1e999".toList
  | some (.integer n) => (if n < 0 then ['-'] else []) ++ Nat.toDigits 10 n.natAbs
  | some (.real x) => if x.isNaN || x.isInfinite then "null".toList else x.write

/-- A string as text. -/
def writeText : Option String → List Char
  | none => "\"\\ud800\"".toList
  | some text => JsonText.write text

mutual

/-- The text of the tree without blanks. -/
def write : Json → List Char
  | null => "null".toList
  | boolean true => "true".toList
  | boolean false => "false".toList
  | number n => writeNumber n
  | string text => writeText text
  | array items => '[' :: writeItems [] items
  | object members => '\x7b' :: writeMembers [] members
  | cut => []

/-- Items, each after a comma but the first, and the closing bracket. -/
def writeItems (separator : List Char) : JsonItems → List Char
  | .done => [']']
  | .cut => []
  | .cons item rest => separator ++ write item ++ writeItems [','] rest

/-- Members, each after a comma but the first, and the closing brace. -/
def writeMembers (separator : List Char) : JsonMembers → List Char
  | .done => ['\x7d']
  | .cut => []
  | .cons name value rest =>
    separator ++ write name ++ ':' :: write value ++ writeMembers [','] rest

end

/-- The compact text. -/
def compact (tree : Json) : String := String.ofList tree.write

/-- A new line at the given depth; each level is two blanks. -/
def newLine (depth : Nat) : List Char := '\n' :: List.replicate (2 * depth) ' '

mutual

/-- The text over several lines, from a place at the given depth. -/
def writeLines (depth : Nat) : Json → List Char
  | array .done => "[]".toList
  | object .done => ['\x7b', '\x7d']
  | array items => '[' :: linesOfItems (depth + 1) [] items
  | object members => '\x7b' :: linesOfMembers (depth + 1) [] members
  | null => "null".toList
  | boolean value => (if value then "true" else "false").toList
  | number n => writeNumber n
  | string text => writeText text
  | cut => []

/-- One item a line. -/
def linesOfItems (depth : Nat) (separator : List Char) : JsonItems → List Char
  | .done => newLine (depth - 1) ++ [']']
  | .cut => []
  | .cons item rest =>
    separator ++ newLine depth ++ writeLines depth item ++ linesOfItems depth [','] rest

/-- One member a line. -/
def linesOfMembers (depth : Nat) (separator : List Char) : JsonMembers → List Char
  | .done => newLine (depth - 1) ++ ['\x7d']
  | .cut => []
  | .cons name value rest =>
    separator ++ newLine depth ++ writeLines depth name ++ ':' :: ' ' :: writeLines depth value ++
      linesOfMembers depth [','] rest

end

/-- The text over several lines. -/
def pretty (tree : Json) : String := String.ofList (tree.writeLines 0)

end SeriesQuery.Json
