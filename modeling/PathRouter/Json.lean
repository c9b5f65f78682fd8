import PathRouter.Decimal.Layout
import PathRouter.Text.Quoted

/-!
JSON values. Integers and floating-point numbers are kept apart, because `1` and `1.0` are read
differently where an integer is asked for.
-/

namespace PathRouter

inductive Json where
  | null
  | bool (b : Bool)
  | int (n : Int)
  | float (x : Float)
  | str (s : String)
  | arr (items : List Json)
  | obj (fields : List (String × Json))
  deriving Inhabited

namespace Json

/-- The value of a key. -/
def field? (key : String) : Json → Option Json
  | .obj fields => (fields.find? (·.1 == key)).map (·.2)
  | _ => none

/-- Replaces the value of a key, or adds it at the end. -/
def put (key : String) (v : Json) : List (String × Json) → List (String × Json)
  | [] => [(key, v)]
  | (k, old) :: rest => if k = key then (key, v) :: rest else (k, old) :: put key v rest

theorem field?_cons (key k : String) (v : Json) (entries : List (String × Json)) :
    (obj ((k, v) :: entries)).field? key =
      if k = key then some v else (obj entries).field? key := by
  by_cases hk : k = key <;> simp [field?, hk]

theorem field?_obj (key : String) (entries : List (String × Json)) :
    (obj entries).field? key = entries.lookup key := by
  induction entries with
  | nil => rfl
  | cons entry entries ih =>
      obtain ⟨k, v⟩ := entry
      rw [field?_cons, List.lookup_cons, ih]
      by_cases hk : k = key
      · simp [hk]
      · simp [hk, beq_false_of_ne (Ne.symm hk)]

theorem field?_put (key : String) (v : Json) (entries : List (String × Json)) (k : String) :
    (obj (put key v entries)).field? k = if key = k then some v else (obj entries).field? k := by
  induction entries with
  | nil => rw [put, field?_cons]
  | cons entry entries ih =>
      obtain ⟨k', old⟩ := entry
      rw [put]
      split
      · next hkey =>
          subst hkey
          rw [field?_cons, field?_cons]
          split <;> rfl
      · next hkey =>
          rw [field?_cons, field?_cons, ih]
          by_cases hk : key = k
          · rw [if_pos hk, if_pos hk, if_neg (hk ▸ hkey)]
          · rw [if_neg hk, if_neg hk]

/-- The object of members that come one after the other. One whose key has come before takes the
place of the earlier one. -/
def ofMembers (members : List (String × Json)) : Json :=
  .obj (members.foldl (fun fields member => put member.1 member.2 fields) [])

namespace Writer

def escape (c : Char) : List Char :=
  if c = '"' || c = '\\' then ['\\', c]
  else if c = '\n' then ['\\', 'n']
  else if c = '\r' then ['\\', 'r']
  else if c = '\t' then ['\\', 't']
  else if c = '\x08' then ['\\', 'b']
  else if c = '\x0c' then ['\\', 'f']
  else if c.toNat < 32 then
    let digits := Text.hexDigits c.toNat
    ['\\', 'u'] ++ List.replicate (4 - digits.length) '0' ++ digits
  else [c]

def quoted (s : String) : String := String.ofList (['"'] ++ s.toList.flatMap escape ++ ['"'])

mutual

def value : Json → String
  | .null => "null"
  | .bool b => if b then "true" else "false"
  | .int n => toString n
  | .float x => if x.isFinite then Decimal.Layout.data.render x else "null"
  | .str s => quoted s
  | .arr items => "[" ++ ",".intercalate (values items) ++ "]"
  | .obj fields => "\x7b" ++ ",".intercalate (members fields) ++ "\x7d"

def values : List Json → List String
  | [] => []
  | v :: rest => value v :: values rest

def members : List (String × Json) → List String
  | [] => []
  | (key, v) :: rest => (quoted key ++ ":" ++ value v) :: members rest

end

end Writer

/-- The value on one line without spaces. -/
def render (v : Json) : String := Writer.value v

end Json

end PathRouter
