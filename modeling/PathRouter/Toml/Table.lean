import PathRouter.Json

/-!
TOML tables while their document is read. A table can be given in several places, and which places
may add to it depends on how it came to be.
-/

namespace PathRouter.Toml

/-- What made a table. -/
inductive Origin where
  /-- A header of its own, or the start of the document. -/
  | header
  /-- A header of a table inside it. It may still get a header of its own. -/
  | subheader
  /-- A key with points. Only such keys may add to it. -/
  | dottedKey
  deriving DecidableEq, Repr

inductive Node where
  | value (v : Json)
  | table (origin : Origin) (entries : List (String × Node))
  /-- The rows of an array of tables, the last one first. -/
  | rows (rows : List (List (String × Node)))
  deriving Inhabited

abbrev Entries := List (String × Node)

namespace Entries

/-- Replaces the node of a key, or adds it at the end. -/
def put (key : String) (node : Node) : Entries → Entries
  | [] => [(key, node)]
  | (k, old) :: rest => if k = key then (key, node) :: rest else (k, old) :: put key node rest

/-- Changes the table that a path leads to. Tables that are missing on the way are made; `byKey`
tells whether a key with points or a header leads there, and only the former is kept out of tables
that have a header. In an array of tables the way leads on through the last row. -/
def changeAt (byKey : Bool) (change : Origin → Entries → Option (Origin × Entries)) :
    List String → Origin → Entries → Option (Origin × Entries)
  | [], origin, entries => change origin entries
  | key :: path, origin, entries => do
      let node ← match entries.lookup key with
        | none => inTable (if byKey then .dottedKey else .subheader) [] path
        | some (.value _) => none
        | some (.table .header inner) => if byKey then none else inTable .header inner path
        | some (.table inner nodes) => inTable inner nodes path
        | some (.rows []) => none
        | some (.rows (last :: before)) => do
            let (_, last) ← changeAt byKey change path .header last
            some (.rows (last :: before))
      some (origin, entries.put key node)
where
  inTable (origin : Origin) (entries : Entries) (path : List String) : Option Node := do
    let (origin, entries) ← changeAt byKey change path origin entries
    some (.table origin entries)

/-- Sets a key of the table that a header leads to. The way from there is a key with points if it
is not empty. A key may be set once. -/
def set (header path : List String) (key : String) (v : Json) (root : Entries) :
    Option Entries := do
  let setKey (origin : Origin) (entries : Entries) : Option (Origin × Entries) :=
    if (origin == .dottedKey) == path.isEmpty then none
    else match entries.lookup key with
      | some _ => none
      | none => some (origin, entries ++ [(key, .value v)])
  let (_, root) ← changeAt false (fun origin entries => changeAt true setKey path origin entries)
    header .header root
  some root

/-- Opens the table of a header. A table may be opened once. One that was made for a table inside it
moves to the place of its own header. -/
def openTable (path : List String) (key : String) (root : Entries) : Option Entries := do
  let openKey (origin : Origin) (entries : Entries) : Option (Origin × Entries) :=
    match entries.lookup key with
    | none => some (origin, entries.put key (.table .header []))
    | some (.table .subheader inner) =>
        some (origin, entries.filter (·.1 ≠ key) ++ [(key, .table .header inner)])
    | some _ => none
  let (_, root) ← changeAt false openKey path .header root
  some root

/-- Opens a new row of an array of tables. -/
def openRow (path : List String) (key : String) (root : Entries) : Option Entries := do
  let openKey (origin : Origin) (entries : Entries) : Option (Origin × Entries) :=
    match entries.lookup key with
    | none => some (origin, entries.put key (.rows [[]]))
    | some (.rows rows) => some (origin, entries.put key (.rows ([] :: rows)))
    | some _ => none
  let (_, root) ← changeAt false openKey path .header root
  some root

end Entries

mutual

/-- The finished value. -/
def Node.finish : Node → Json
  | .value v => v
  | .table _ entries => .obj (finishEntries entries)
  | .rows rows => .arr (finishRows rows).reverse

def finishEntries : List (String × Node) → List (String × Json)
  | [] => []
  | (key, node) :: rest => (key, node.finish) :: finishEntries rest

def finishRows : List (List (String × Node)) → List Json
  | [] => []
  | row :: rest => .obj (finishEntries row) :: finishRows rest

end

end PathRouter.Toml
