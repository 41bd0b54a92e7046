import SeriesQuery.Number.Binary64

/-!
# JSON documents

The tree of a JSON text. A text that stops being JSON at some place has a tree too: its outermost
unfinished parts end in `cut` there, and everything read before that place is kept. So a reader of trees
meets the faults of a text in the order in which they stand.
-/

namespace SeriesQuery

/-- A number of a document. Integers fit 64 bits, signed or unsigned. -/
inductive JsonNumber where
  | integer (n : Int)
  | real (x : Binary64)
  deriving DecidableEq, Repr

mutual

/-- A document, or the part of it that could be read. A number that is out of range and a string whose
escapes are half a surrogate pair are well formed but have no value. -/
inductive Json where
  | null
  | boolean (value : Bool)
  | number (value : Option JsonNumber)
  | string (value : Option String)
  | array (items : JsonItems)
  | object (members : JsonMembers)
  | cut

/-- The items of an array, up to its end or to the place where reading stopped. -/
inductive JsonItems where
  | done
  | cut
  | cons (item : Json) (rest : JsonItems)

/-- The members of an object, likewise. A name that is no string ends the reading. -/
inductive JsonMembers where
  | done
  | cut
  | cons (name value : Json) (rest : JsonMembers)

end

/-- The finished list of the items. -/
def JsonItems.ofList : List Json → JsonItems
  | [] => done
  | item :: rest => cons item (ofList rest)

/-- The finished list of the members. -/
def JsonMembers.ofList : List (String × Json) → JsonMembers
  | [] => done
  | (name, value) :: rest => cons (.string (some name)) value (ofList rest)

namespace Json

/-- A text as a document. -/
def ofText (text : String) : Json := string (some text)

/-- A text or nothing. -/
def ofText? (text : Option String) : Json := (text.map ofText).getD null

/-- The array of the items. -/
def ofItems (items : List Json) : Json := array (JsonItems.ofList items)

/-- The object of the members. -/
def ofMembers (members : List (String × Json)) : Json := object (JsonMembers.ofList members)

end Json

end SeriesQuery
