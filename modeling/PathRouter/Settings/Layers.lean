import PathRouter.Settings.Reader
import PathRouter.Text.Lowercase
import PathRouter.Toml.Document

/-!
Settings from a file with variables of the environment laid over it. Keys outside of lists are the
same in any case of their letters. A variable replaces the one value that its name leads to and
leaves the rest of the file as it is.
-/

namespace PathRouter

namespace Layers

/-- One step on the way to a value. -/
inductive Step where
  | key (name : String)
  | index (n : Int)
  deriving DecidableEq, Repr

/-- The integers of 64 bits. -/
def isInt64 (n : Int) : Bool := -0x8000000000000000 ≤ n && n < 0x8000000000000000

def isPathChar (c : Char) : Bool := c.isAlphanum || c = ' ' || c = '_' || c = '-'

/-- Reads an index after its opening bracket. Blanks may stand around it, and a minus sign right
before it. -/
def readIndex (cs : List Char) : Option (Int × List Char) :=
  let cs := Toml.skipBlank cs
  let (negative, cs) := match cs with
    | '-' :: rest => (true, rest)
    | _ => (false, cs)
  match Text.spanDigits 10 cs with
  | ([], _) => none
  | (digits, rest) =>
      let n := Int.ofNat (Text.valueOf 10 digits)
      let index := if negative then -n else n
      match Toml.skipBlank rest with
      | ']' :: rest => if isInt64 index then some (index, rest) else none
      | _ => none

/-- Reads the steps after the first one, with a bound for their number. -/
def readSteps : (bound : Nat) → List Char → Option (List Step)
  | _, [] => some []
  | 0, _ => none
  | bound + 1, '.' :: rest =>
      match rest.takeWhile isPathChar with
      | [] => none
      | name => (readSteps bound (rest.dropWhile isPathChar)).map (.key (String.ofList name) :: ·)
  | bound + 1, '[' :: rest =>
      match readIndex rest with
      | some (index, rest) => (readSteps bound rest).map (.index index :: ·)
      | none => none
  | _, _ => none

/-- The way that a key at the top leads. Points in it step into tables, and numbers in brackets
into lists; a key that is not of this form names a value as a whole. -/
def pathOf (key : String) : List Step :=
  let cs := key.toList
  match cs.takeWhile isPathChar, readSteps cs.length (cs.dropWhile isPathChar) with
  | c :: name, some steps => .key (String.ofList (c :: name)) :: steps
  | _, _ => [.key key]

/-- The entries of a table; any other value has none. -/
def entriesOf : Json → List (String × Json)
  | .obj entries => entries
  | _ => []

def itemsOf : Json → List Json
  | .arr items => items
  | _ => []

/-- Makes a place for an index in a list, and tells where it is. Negative indices count from the
end, and the list grows on either side as far as it has to. -/
def roomFor (index : Int) (items : List Json) : List Json × Nat :=
  if 0 ≤ index then
    (items ++ List.replicate (index.toNat + 1 - items.length) .null, index.toNat)
  else
    (List.replicate (index.natAbs - items.length) .null ++ items, items.length - index.natAbs)

mutual

/-- Lays a value over another: the entries of a table over those below, all else in its place. -/
def overlay (below : Json) : Json → Json
  | .obj entries => overlayEntries below entries
  | v => v

/-- Lays entries one by one over a table. Where there is none below, the first entry makes one. -/
def overlayEntries (below : Json) : List (String × Json) → Json
  | [] => below
  | (key, v) :: rest =>
      let entries := entriesOf below
      let old := (entries.lookup (Text.lowercase key)).getD (.obj [])
      overlayEntries (.obj (Json.put (Text.lowercase key) (overlay old v) entries)) rest

end

/-- Lays a value over the place that a path leads to. What is in the way of a path gives way. -/
def setAt (v : Json) : List Step → Json → Json
  | [], below => overlay below v
  | .key name :: path, below =>
      let entries := entriesOf below
      let old := (entries.lookup (Text.lowercase name)).getD (.obj [])
      .obj (Json.put (Text.lowercase name) (setAt v path old) entries)
  | .index index :: path, below =>
      let (items, n) := roomFor index (itemsOf below)
      .arr (items.set n (if path = [] then v else setAt v path (items[n]?.getD .null)))

/-- Lays the entries of a table over a value, each key at the top leading where its path does. -/
def laid (source : Json) (below : Json) : Json :=
  (entriesOf source).foldl (fun below entry => setAt entry.2 (pathOf entry.1) below) below

/-- The variables with this beginning in their names belong to the settings. -/
def variablePrefix : String := "waymark_"

/-- What a variable holds: a flag, an integer of 64 bits or another number if its text is one. -/
def valueOfVariable (text : String) : Json :=
  let word := text.map Char.toLower
  if word = "true" then .bool true
  else if word = "false" then .bool false
  else match (Decimal.parseInt? text).filter isInt64 with
    | some n => .int n
    | none => ((Decimal.parse? text).map Json.float).getD (.str text)

/-- Two underscores in a row step into a table. -/
def dotted : List Char → List Char
  | '_' :: '_' :: rest => '.' :: dotted rest
  | c :: rest => c :: dotted rest
  | [] => []

/-- The key that a variable's name stands for, if it belongs to the settings. -/
def keyOfVariable? (name : String) : Option String :=
  let cs := (Text.lowercase name).toList
  let start := variablePrefix.toList
  if start.isPrefixOf cs then some (String.ofList (dotted (cs.drop start.length))) else none

/-- The variables that belong to the settings, as a table. -/
def ofVariables (vars : List (String × String)) : Json :=
  .obj (vars.filterMap fun (name, text) =>
    (keyOfVariable? name).map fun key => (key, valueOfVariable text))

end Layers

namespace Settings

/-- What keeps settings from being made. -/
inductive LoadError where
  /-- The file is missing or is not of its format. -/
  | unreadable
  /-- A value does not fit its place. -/
  | unfit
  deriving DecidableEq, Repr

def LoadError.message : LoadError → String
  | .unreadable => "Failed to load configuration"
  | .unfit => "Failed to parse configuration"

/-- The settings of a file's text, if there is a file, with variables laid over them. -/
def ofLayers (file : Option String) (vars : List (String × String)) :
    Except LoadError Settings :=
  match (file.map Toml.parse?).getD (some (.obj [])) with
  | none => .error .unreadable
  | some table =>
      let merged := Layers.laid (Layers.ofVariables vars) (Layers.laid table (.obj []))
      match Settings.read .lenient merged with
      | some s => .ok s
      | none => .error .unfit

/-- What the program sees of the system it runs on. -/
structure Environment where
  /-- The texts of the files that exist. -/
  file? : String → Option String
  home : Option String
  vars : List (String × String)

/-- The files that are tried in order when none is named. -/
def searchPath (home : Option String) : List String :=
  ["waymark.toml", "/etc/waymark/waymark.toml", home.getD "~" ++ "/.config/waymark/waymark.toml"]

/-- The settings of the named file, or else of the first file that exists. A named file has to
exist, be it with the ending of its format added. -/
def load (env : Environment) (named : Option String) : Except LoadError Settings :=
  match named with
  | some path =>
      match (env.file? path).or (env.file? (path ++ ".toml")) with
      | some text => ofLayers (some text) env.vars
      | none => .error .unreadable
  | none => ofLayers ((searchPath env.home).findSome? env.file?) env.vars

end Settings

end PathRouter
