import PathRouter.Pattern.Basic

/-!
Paths that show how two patterns compare: one that both match, and one that only the first does.
They are made from the texts of the patterns alone.
-/

namespace PathRouter

namespace Segment

/-- The one of two segments whose parts the other one matches too, if they share any. -/
def narrower : Segment → Segment → Segment
  | s, .multi _ => s
  | .multi _, t => t
  | .single _, t => t
  | s, _ => s

def samples (segments : List Segment) : String := String.join (segments.map sample)

/-- What stands for a wildcard where its name cannot. -/
def placeholder : String := "x"

end Segment

namespace Pattern

def sharedSample : List Segment → List Segment → String
  | s :: ss, t :: ts => (s.narrower t).sample ++ sharedSample ss ts
  | [], rest | rest, [] => Segment.samples rest

/-- A path that both patterns match, unless they are disjoint. -/
def sharedPath (p q : Pattern) : String := sharedSample p.segments q.segments

/-- A wildcard for all that is left escapes the other side with the empty part, and where that is
what the other side asks for, with a part that is not. A wildcard for one part escapes a literal
with a part unequal to it. -/
def ownSample : List Segment → List Segment → String
  | .multi name :: _, .slash :: _ => "/" ++ name.getD Segment.placeholder
  | .multi _ :: _, _ :: _ => "/"
  | .single name :: ss, .literal text :: ts =>
      "/" ++ (if name = text then text ++ Segment.placeholder else name) ++ ownSample ss ts
  | s :: ss, _ :: ts => s.sample ++ ownSample ss ts
  | ss, [] => Segment.samples ss
  | [], _ :: _ => ""

/-- A path that the first pattern matches and, unless it is contained in it, the second does
not. -/
def ownPath (p q : Pattern) : String := ownSample p.segments q.segments

end Pattern

end PathRouter
