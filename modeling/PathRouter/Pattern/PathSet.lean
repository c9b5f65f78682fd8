import PathRouter.Pattern.Basic

/-!
The paths that a pattern stands for. A list of segments spells a path together with a value for
each of its wildcards, and a pattern matches the paths that it spells with some values. Nothing
here looks for a value or prefers one pattern to another.
-/

namespace PathRouter

/-- A value that a wildcard for one part may take. -/
def IsPart (value : String) : Prop := value ≠ "" ∧ '/' ∉ value.toList

/-- The segments, with the values in place of their wildcards, are written as the text. -/
inductive Spells : List Segment → List String → List Char → Prop where
  | nil : Spells [] [] []
  | literal {later values rest} (text : String) (h : Spells later values rest) :
      Spells (.literal text :: later) values ('/' :: text.toList ++ rest)
  | single {later values rest} (name value : String) (hv : IsPart value)
      (h : Spells later values rest) :
      Spells (.single name :: later) (value :: values) ('/' :: value.toList ++ rest)
  | multi {later values rest} (name : Option String) (value : String)
      (h : Spells later values rest) :
      Spells (.multi name :: later) (value :: values) ('/' :: value.toList ++ rest)
  | slash {later values rest} (h : Spells later values rest) :
      Spells (.slash :: later) values ('/' :: rest)

namespace Pattern

/-- The pattern matches the path, and its wildcards take these values. -/
def MatchesWith (p : Pattern) (values : List String) (path : String) : Prop :=
  Spells p.segments values path.toList

def Matches (p : Pattern) (path : String) : Prop := ∃ values, p.MatchesWith values path

end Pattern

end PathRouter
