import SeriesQuery.Json.Reader
import SeriesQuery.Number.Shortest

/-!
# From JSON to values

Readers of trees for texts, flags, lists and records. They meet the members of a document in the order in
which they stand and report the first fault. A record is an object of its fields in any order, unknown
names ignored, or an array of its fields in the declared order.
-/

namespace SeriesQuery

/-- Why a document does not give a value. `malformed` stands for every text that is not JSON. -/
inductive JsonFault where
  | malformed
  | missingField (name : String)
  | duplicateField (name : String)
  | unknownVariant (name : String) (expected : String)
  | invalidType (found expected : String)
  | invalidLength (length : Nat) (expected : String)
  | invalidValue
  deriving DecidableEq, Repr

namespace JsonFault

/-- A name between grave accents. -/
def named (name : String) : String := "`" ++ name ++ "`"

/-- The sentence for the fault. Texts that are not JSON and values that a text does not denote have no
sentence of their own. -/
def message? : JsonFault → Option String
  | malformed => none
  | missingField name => some ("missing field " ++ named name)
  | duplicateField name => some ("duplicate field " ++ named name)
  | unknownVariant name expected =>
    some ("unknown variant " ++ named name ++ ", expected " ++ expected)
  | invalidType found expected => some ("invalid type: " ++ found ++ ", expected " ++ expected)
  | invalidLength length expected =>
    some ("invalid length " ++ toString length ++ ", expected " ++ expected)
  | invalidValue => none

end JsonFault

namespace Json

/-- What a document shows at first sight. Strings and numbers are read to their end for it. -/
def describe : Json → Except JsonFault String
  | null => .ok "null"
  | boolean value => .ok ("boolean " ++ JsonFault.named (if value then "true" else "false"))
  | number (some (.integer n)) => .ok ("integer " ++ JsonFault.named (toString n))
  | number (some (.real x)) =>
    .ok ("floating point " ++ JsonFault.named (String.ofList x.write))
  | string (some text) => .ok ("string " ++ Text.quoted text)
  | array _ => .ok "sequence"
  | object _ => .ok "map"
  | number none => .error .malformed
  | string none => .error .malformed
  | cut => .error .malformed

/-- The fault of a document of another type than expected. -/
def mismatch {α : Type} (expected : String) (tree : Json) : Except JsonFault α := do
  throw (.invalidType (← tree.describe) expected)

/-- A text. -/
def readString : Json → Except JsonFault String
  | string (some text) => .ok text
  | tree => tree.mismatch "a string"

/-- A flag. -/
def readBool : Json → Except JsonFault Bool
  | boolean value => .ok value
  | tree => tree.mismatch "a boolean"

/-- A binary64 number. -/
def readReal : Json → Except JsonFault Binary64
  | number (some (.integer n)) => .ok (Binary64.ofInt n)
  | number (some (.real x)) => .ok x
  | tree => tree.mismatch "f64"

/-- A value or null. -/
def readOptional {α : Type} (read : Json → Except JsonFault α) : Json → Except JsonFault (Option α)
  | null => .ok none
  | tree => some <$> read tree

/-- Every item in order. -/
def readEach {α : Type} (read : Json → Except JsonFault α) : JsonItems → Except JsonFault (List α)
  | .done => .ok []
  | .cut => .error .malformed
  | .cons item rest => do
    let value ← read item
    return value :: (← readEach read rest)

/-- A list. -/
def readList {α : Type} (read : Json → Except JsonFault α) : Json → Except JsonFault (List α)
  | array items => readEach read items
  | tree => tree.mismatch "a sequence"

/-! ## Records -/

/-- When a field may be left out. -/
inductive Presence where
  /-- Never. -/
  | required
  /-- From an object, but not from an array. -/
  | nullable
  /-- Always; the field then has its default. -/
  | defaulted
  deriving DecidableEq, Repr

/-- A field of a record: its name, other names it is read under, and how its document changes the record. -/
structure Field (α : Type) where
  name : String
  aliases : List String := []
  presence : Presence
  read : Json → Except JsonFault (α → α)

/-- A field that a setter fills. -/
def Field.of {α β : Type} (name : String) (presence : Presence)
    (read : Json → Except JsonFault β) (set : β → α → α) : Field α :=
  { name := name, presence := presence, read := fun tree => set <$> read tree }

/-- A record: its name in messages, the record with every field at its default, and its fields in the
declared order. -/
structure Shape (α : Type) where
  name : String
  blank : α
  fields : List (Field α)

namespace Shape

/-- What a record is called in messages. -/
def title {α : Type} (shape : Shape α) : String := "struct " ++ shape.name

/-- What an array of the record's fields is called in messages. -/
def arrayTitle {α : Type} (shape : Shape α) : String :=
  shape.title ++ " with " ++ toString shape.fields.length ++ " elements"

/-- The field that a name means. -/
def field? {α : Type} (shape : Shape α) (name : String) : Option (Field α) :=
  shape.fields.find? fun f => f.name = name ∨ name ∈ f.aliases

/-- The record from the members of an object, given the fields that were read already. -/
def readMembers {α : Type} (shape : Shape α) (seen : List String) (value : α) :
    JsonMembers → Except JsonFault α
  | .done =>
    match shape.fields.find? fun f => f.presence = .required ∧ f.name ∉ seen with
    | some f => .error (.missingField f.name)
    | none => .ok value
  | .cut => .error .malformed
  | .cons (string (some name)) tree rest =>
    match shape.field? name with
    | none => shape.readMembers seen value rest
    | some f =>
      if f.name ∈ seen then .error (.duplicateField f.name)
      else do
        let set ← f.read tree
        shape.readMembers (f.name :: seen) (set value) rest
  | .cons _ _ _ => .error .malformed

/-- The record from the items of an array, given the fields that are still to come. Items beyond the
last field make the document malformed. -/
def readItems {α : Type} (shape : Shape α) (index : Nat) (value : α) :
    List (Field α) → JsonItems → Except JsonFault α
  | _, .cut => .error .malformed
  | [], .done => .ok value
  | [], .cons _ _ => .error .malformed
  | f :: fields, .done =>
    if f.presence = .defaulted then shape.readItems (index + 1) value fields .done
    else .error (.invalidLength index shape.arrayTitle)
  | f :: fields, .cons item rest => do
    let set ← f.read item
    shape.readItems (index + 1) (set value) fields rest

/-- The record of a document. -/
def read {α : Type} (shape : Shape α) : Json → Except JsonFault α
  | object members => shape.readMembers [] shape.blank members
  | array items => shape.readItems 0 shape.blank shape.fields items
  | tree => tree.mismatch shape.title

end Shape

/-- The value of a text that holds one document and nothing else. -/
def decode {α : Type} (read : Json → Except JsonFault α) (text : String) : Except JsonFault α := do
  let (tree, alone) := parse text
  let value ← read tree
  if alone then return value else throw .malformed

end Json

end SeriesQuery
