import PathRouter.Toml.Datetime
import PathRouter.Toml.Number
import PathRouter.Toml.Quotes
import PathRouter.Toml.Table

/-!
Reading TOML documents. The result is the table of the document as a JSON object; dates and times
become texts.
-/

namespace PathRouter.Toml

abbrev Reader (α : Type) := List Char → Option (α × List Char)

/-- Reads the items of an array after its bracket, with a bound for their number. -/
def readItems (item : Reader Json) : (bound : Nat) → Reader (List Json)
  | 0, _ => none
  | bound + 1, cs => do
      match ← skipFiller false cs with
      | ']' :: rest => some ([], rest)
      | cs =>
          let (v, cs) ← item cs
          match ← skipFiller false cs with
          | ',' :: rest =>
              let (later, rest) ← readItems item bound rest
              some (v :: later, rest)
          | ']' :: rest => some ([v], rest)
          | _ => none

/-- Sets the value of a key, whose path is not empty. -/
def setKey (header : List String) (key : List String) (v : Json) (root : Entries) :
    Option Entries := do
  let last ← key.getLast?
  root.set header key.dropLast last v

/-- Reads a key, the equals sign and a value. -/
def readPair (item : Reader Json) : Reader (List String × Json) := fun cs => do
  let (key, cs) ← readKey cs
  match cs with
  | '=' :: rest =>
      let (v, rest) ← item (skipBlank rest)
      some ((key, v), rest)
  | _ => none

/-- Reads the pairs of an inline table up to its closing brace, with a bound for their number. The
last of them has no comma after it. -/
def readPairs (item : Reader Json) : (bound : Nat) → Entries → Reader Entries
  | 0, _, _ => none
  | bound + 1, entries, cs => do
      let ((key, v), cs) ← readPair item cs
      let entries ← setKey [] key v entries
      match skipBlank cs with
      | ',' :: rest => readPairs item bound entries rest
      | '}' :: rest => some (entries, rest)
      | _ => none

def readInlineTable (item : Reader Json) : Reader Entries := fun cs =>
  match skipBlank cs with
  | '}' :: rest => some ([], rest)
  | cs => readPairs item cs.length [] cs

def readScalar : Reader Json := fun cs =>
  match cs with
  | '"' :: _ | '\'' :: _ => (readString cs).map fun (s, rest) => (.str s, rest)
  | 't' :: 'r' :: 'u' :: 'e' :: rest => some (.bool true, rest)
  | 'f' :: 'a' :: 'l' :: 's' :: 'e' :: rest => some (.bool false, rest)
  | _ =>
      match Datetime.read cs with
      | some (shown, rest) => some (Datetime.toReserved shown, rest)
      | none => readNumber cs

/-- Reads a value in which at most `depth` arrays and inline tables are nested. -/
def readValue : (depth : Nat) → Reader Json
  | 0, cs => readScalar cs
  | depth + 1, cs =>
      match cs with
      | '[' :: rest =>
          (readItems (readValue depth) cs.length rest).map fun (items, rest) => (.arr items, rest)
      | '{' :: rest =>
          (readInlineTable (readValue depth) rest).map fun (entries, rest) =>
            (.obj (finishEntries entries), rest)
      | _ => readScalar cs

def readTop : Reader Json := readValue nestingLimit

/-- The table of a document as far as it is read, and the header under which keys are set. -/
structure Draft where
  root : Entries
  header : List String

/-- Opens what a header names. -/
def Draft.openHeader (d : Draft) (isRow : Bool) (key : List String) : Option Draft := do
  let last ← key.getLast?
  let path := key.dropLast
  let root ← if isRow then d.root.openRow path last else d.root.openTable path last
  some ⟨root, key⟩

/-- Reads one line that is neither blank nor a comment, or a header. -/
def Draft.readLine (d : Draft) : Reader Draft := fun cs =>
  match cs with
  | '[' :: '[' :: rest => do
      match ← readKey rest with
      | (key, ']' :: ']' :: rest) => return (← d.openHeader true key, ← endLine? rest)
      | _ => none
  | '[' :: rest => do
      match ← readKey rest with
      | (key, ']' :: rest) => return (← d.openHeader false key, ← endLine? rest)
      | _ => none
  | _ => do
      let ((key, v), rest) ← readPair readTop cs
      return (← (setKey d.header key v d.root).map ({ d with root := · }), ← endLine? rest)

/-- Reads lines, with a bound for their number. -/
def Draft.readLines (d : Draft) : (bound : Nat) → List Char → Option Draft
  | 0, _ => none
  | bound + 1, cs => do
      match ← skipFiller false cs with
      | [] => some d
      | cs =>
          let (d, rest) ← d.readLine cs
          d.readLines bound rest

mutual

/-- The value with all its dates and times as texts. -/
def withDates : Json → Option Json
  | .obj [] => some (.obj [])
  | .obj ((key, v) :: rest) =>
      if key = Datetime.reservedKey then Datetime.ofReserved? v
      else do
        let v ← withDates v
        let rest ← entriesWithDates rest
        some (.obj ((key, v) :: rest))
  | .arr items => (itemsWithDates items).map .arr
  | v => some v

def entriesWithDates : List (String × Json) → Option (List (String × Json))
  | [] => some []
  | (key, v) :: rest => do
      let v ← withDates v
      let rest ← entriesWithDates rest
      some ((key, v) :: rest)

def itemsWithDates : List Json → Option (List Json)
  | [] => some []
  | v :: rest => do
      let v ← withDates v
      let rest ← itemsWithDates rest
      some (v :: rest)

end

/-- The document's table, or nothing if the text is no TOML document. -/
def parse? (text : String) : Option Json := do
  let cs := match text.toList with
    | '\uFEFF' :: rest => rest
    | cs => cs
  let d ← Draft.readLines ⟨[], []⟩ (cs.length + 1) cs
  match ← withDates (.obj (finishEntries d.root)) with
  | .obj entries => some (.obj entries)
  | _ => none

end PathRouter.Toml
