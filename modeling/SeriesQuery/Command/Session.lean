import SeriesQuery.Command.Files

/-!
# Sessions

What a program asks of its surroundings, as a tree: each request comes with the session that follows each
answer. The same session runs over a tree of files in memory and over real files.
-/

namespace SeriesQuery

/-- The bytes of a file or of the input, or why there are none. -/
abbrev Content := Except FileFault (List UInt8)

/-- A session that ends with a value. -/
inductive Session (α : Type) where
  /-- The end. -/
  | done (value : α)
  /-- Asks whether there is something at a path. -/
  | present (path : String) (next : Bool → Session α)
  /-- Asks for the bytes of a file. -/
  | content (path : String) (next : Content → Session α)
  /-- Asks for all bytes of the input. -/
  | input (next : Content → Session α)
  /-- Asks to put a text into a file. -/
  | save (path text : String) (next : Except FileFault Unit → Session α)

namespace Session

variable {α β : Type}

/-- One session after the other. -/
def bind (s : Session α) (f : α → Session β) : Session β :=
  match s with
  | done value => f value
  | present path next => present path fun answer => (next answer).bind f
  | content path next => content path fun answer => (next answer).bind f
  | input next => input fun answer => (next answer).bind f
  | save path text next => save path text fun answer => (next answer).bind f

instance : Monad Session where
  pure := done
  bind := bind

/-- The value and the files at the end of a session over files in memory. -/
def runOn (entered : List UInt8) (fs : Files) : Session α → α × Files
  | done value => (value, fs)
  | present path next => (next (fs.has path)).runOn entered fs
  | content path next => (next (fs.read path)).runOn entered fs
  | input next => (next (.ok entered)).runOn entered fs
  | save path text next =>
    match fs.write path text.toUTF8.toList with
    | .ok written => (next (.ok ())).runOn entered written
    | .error fault => (next (.error fault)).runOn entered fs

end Session

end SeriesQuery
