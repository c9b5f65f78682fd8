import PathRouter.Segment

/-!
Patterns: the segments of a route in path order, and the name of the route they belong to.
-/

namespace PathRouter

structure Pattern where
  segments : List Segment
  name : Option String := none
  deriving Repr

namespace Pattern

def withName (p : Pattern) (name : String) : Pattern := { p with name := some name }

/-- The names of the wildcards in path order; the anonymous wildcard has none. -/
def boundNames (p : Pattern) : List (Option String) :=
  (p.segments.filter Segment.isWildcard).map Segment.boundName?

/-- The pattern ends in a wildcard for all that is left. -/
def isOpenEnded (p : Pattern) : Bool := p.segments.getLast?.any Segment.takesRest

def endsWithSlash (p : Pattern) : Bool := p.segments.getLast? == some .slash

/-- Two lists of segments have the same length and agree in shape at every position. -/
def alikeAll : List Segment → List Segment → Bool
  | [], [] => true
  | s :: ss, t :: ts => s.alike t && alikeAll ss ts
  | _, _ => false

/-- Patterns are equal when their shapes are: neither the names of wildcards nor the name of the
route matter. -/
instance : BEq Pattern where
  beq p q := alikeAll p.segments q.segments

def render (p : Pattern) : String := String.join (p.segments.map Segment.render)

end Pattern

end PathRouter
