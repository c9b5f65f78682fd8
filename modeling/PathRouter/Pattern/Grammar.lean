import PathRouter.Pattern.Parser

/-!
Which lists of segments a text can spell, and how. Each list has its own rendering for a spelling,
and one that ends in the marker for a trailing slash has two more.
-/

namespace PathRouter

namespace Segment

/-- A segment that can be read back by itself. -/
inductive IsWritable : Segment → Prop where
  | literal {text : String} (nonempty : text ≠ "") (free : '/' ∉ text.toList)
      (plain : ¬ text.toList.any isBrace) : IsWritable (.literal text)
  | single {name : String} (h : isName name.toList) : IsWritable (.single name)
  | multi {name : String} (h : isName name.toList) : IsWritable (.multi (some name))
  | anonymous : IsWritable (.multi none)
  | slash : IsWritable .slash

/-- Nothing may follow the segment. -/
def IsFinal : Segment → Prop
  | .multi _ | .slash => True
  | .literal _ | .single _ => False

instance : DecidablePred IsFinal := fun s =>
  match s with
  | .multi _ | .slash => .isTrue trivial
  | .literal _ | .single _ => .isFalse id

end Segment

namespace Pattern

/-- What the segments of a pattern that was read are like. -/
structure WellFormed (segments : List Segment) : Prop where
  nonempty : segments ≠ []
  writable : ∀ s ∈ segments, s.IsWritable
  distinctNames : (segments.filterMap Segment.boundName?).Nodup
  finalLast : ∀ s ∈ segments.dropLast, ¬ s.IsFinal

/-- Beside the rendering, the marker for a trailing slash may be written out, and then an empty
piece may follow it. -/
def IsSpelling (segments : List Segment) (text : String) : Prop :=
  let shown := (Pattern.mk segments none).render
  text = shown ∨
    (segments.getLast? = some .slash ∧ (text = shown ++ "\x7b$\x7d" ∨ text = shown ++ "\x7b$\x7d/"))

end Pattern

end PathRouter
