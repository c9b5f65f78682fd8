import PathRouter.Decimal.Reader
import PathRouter.Settings.Basic

/-!
Reading settings from a value. What is missing takes its default, and what is not known is passed
over; anything that does not fit its place makes the whole value unfit.
-/

namespace PathRouter

/-- How plain values are taken as texts, numbers and flags, and whether a record that is given as
the list of its fields may have items after the last one. -/
structure Conversion where
  text : Json → Option String
  number : Json → Option Int
  flag : Json → Option Bool
  surplusItems : Bool

namespace Conversion

/-- Each kind of value is taken for itself alone. -/
def exact : Conversion where
  text
    | .str s => some s
    | _ => none
  number
    | .int n => some n
    | _ => none
  flag
    | .bool b => some b
    | _ => none
  surplusItems := false

/-- Words for a flag that is set, besides the digit. -/
def onWords : List String := ["true", "on", "yes"]

/-- Words for a flag that is not set, besides the digit. -/
def offWords : List String := ["false", "off", "no"]

/-- A number in a text is written with digits alone, or with a plus sign before them. -/
def numberOfText (s : String) : Option Int :=
  let word := s.map Char.toLower
  if word ∈ onWords then some 1
  else if word ∈ offWords then some 0
  else if s.toList.head? = some '-' then none
  else Decimal.parseInt? s

def flagOfText (s : String) : Option Bool :=
  let word := s.map Char.toLower
  if word ∈ onWords || word = "1" then some true
  else if word ∈ offWords || word = "0" then some false
  else none

/-- The nearest integer, of two the one farther from zero; what lies below zero counts as zero, and
so does what is not a number. -/
def numberOfFloat (x : Float) : Int := Int.ofNat x.round.toUInt64.toNat

/-- Plain values are taken for each other where that makes sense; lists and tables are not. -/
def lenient : Conversion where
  text
    | .str s => some s
    | .bool b => some (if b then "true" else "false")
    | .int n => some (toString n)
    | .float x => some (Decimal.Layout.text.render x)
    | _ => none
  number
    | .int n => some n
    | .bool b => some (if b then 1 else 0)
    | .float x => some (numberOfFloat x)
    | .str s => numberOfText s
    | _ => none
  flag
    | .bool b => some b
    | .int n => some (n != 0)
    | .float x => some (x != 0.0)
    | .str s => flagOfText s
    | _ => none
  surplusItems := true

/-- A number of sixteen bits. -/
def word (c : Conversion) (v : Json) : Option UInt16 := do
  let n ← c.number v
  if 0 ≤ n && n < 65536 then some (UInt16.ofNat n.toNat) else none

/-- The fields of a record. It is a table with their names for keys, or the list of their values in
the order of the names. -/
def fields? (c : Conversion) (names : List String) : Json → Option (String → Option Json)
  | .obj entries => some fun name => (Json.obj entries).field? name
  | .arr items =>
      if items.length ≤ names.length || c.surplusItems then
        some fun name => items[names.idxOf name]?
      else none
  | _ => none

/-- A field that may be missing. -/
def withDefault {α : Type} (default : α) (read : Json → Option α) : Option Json → Option α
  | none => some default
  | some v => read v

def listOf {α : Type} (read : Json → Option α) : Json → Option (List α)
  | .arr items => items.mapM read
  | _ => none

/-- A value that is null counts as missing. -/
def payload : Json → Option (Option Json)
  | .null => some none
  | v => some (some v)

end Conversion

def RouteEntry.read (c : Conversion) (v : Json) : Option RouteEntry := do
  let field ← c.fields? ["name", "pattern", "methods", "status", "body"] v
  let name ← (field "name").bind c.text
  let pattern ← (field "pattern").bind c.text
  let methods ← Conversion.withDefault [] (Conversion.listOf c.text) (field "methods")
  let status ← Conversion.withDefault 200 c.word (field "status")
  let body ← Conversion.withDefault none Conversion.payload (field "body")
  some { name, pattern, methods, status, body }

def MetricsSettings.read (c : Conversion) (v : Json) : Option MetricsSettings := do
  let field ← c.fields? ["enabled", "port"] v
  let enabled ← Conversion.withDefault true c.flag (field "enabled")
  let port ← Conversion.withDefault 9090 c.word (field "port")
  some { enabled, port }

/-- The settings in a value, or nothing if some part of it is unfit. -/
def Settings.read (c : Conversion) (v : Json) : Option Settings := do
  let field ← c.fields? ["host", "port", "metrics", "routes"] v
  let defaults : Settings := {}
  let host ← Conversion.withDefault defaults.host c.text (field "host")
  let port ← Conversion.withDefault defaults.port c.word (field "port")
  let metrics ← Conversion.withDefault defaults.metrics (MetricsSettings.read c) (field "metrics")
  let routes ←
    Conversion.withDefault defaults.routes (Conversion.listOf (RouteEntry.read c)) (field "routes")
  some { host, port, metrics, routes }

end PathRouter
