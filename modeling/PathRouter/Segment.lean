/-!
One unit of a pattern: a literal, a wildcard for one part, a wildcard for all that is left, or the
marker for a path that ends in a slash.
-/

namespace PathRouter

inductive Segment where
  /-- Exactly one part, equal to the text. -/
  | literal (text : String)
  /-- Exactly one part that is not empty, bound to the name. -/
  | single (name : String)
  /-- Everything after the slash, possibly nothing, bound to the name if there is one. -/
  | multi (name : Option String)
  /-- Nothing after the slash. -/
  | slash
  deriving DecidableEq, Repr

namespace Segment

def isWildcard : Segment → Bool
  | .single _ | .multi _ => true
  | .literal _ | .slash => false

def takesRest : Segment → Bool
  | .multi _ => true
  | _ => false

/-- The name that a wildcard binds; an anonymous wildcard binds none. -/
def boundName? : Segment → Option String
  | .single name => some name
  | .multi name => name
  | .literal _ | .slash => none

/-- Both segments match the same parts: names of wildcards do not matter. -/
def alike : Segment → Segment → Bool
  | .literal s, .literal t => s == t
  | .single _, .single _ | .multi _, .multi _ | .slash, .slash => true
  | _, _ => false

/-- The segment as it is written in a pattern, with the slash before it. -/
def render : Segment → String
  | .literal text => "/" ++ text
  | .single name => "/\x7b" ++ name ++ "\x7d"
  | .multi name => "/\x7b" ++ name.getD "" ++ "...\x7d"
  | .slash => "/"

/-- A path that the segment matches. A wildcard's own name serves as the part it binds. -/
def sample : Segment → String
  | .literal text => "/" ++ text
  | .single name => "/" ++ name
  | .multi _ | .slash => "/"

end Segment

end PathRouter
