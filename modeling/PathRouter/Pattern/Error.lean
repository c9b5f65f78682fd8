import PathRouter.Text.Quoted

/-!
What can be wrong with the text of a pattern, and how it is told.
-/

namespace PathRouter.Pattern

inductive Fault where
  | empty
  | noLeadingSlash
  | emptySegment
  /-- Braces that do not enclose the whole segment, or stand inside it. -/
  | malformedWildcard (segment : String)
  | invalidName (name : String)
  | duplicateName (name : String)
  | multiNotFinal
  | slashNotFinal
  deriving DecidableEq, Repr

/-- The first fault of a text, beside the whole text. -/
structure ParseError where
  pattern : String
  fault : Fault
  deriving DecidableEq, Repr

def ParseError.message (e : ParseError) : String :=
  let subject := "Pattern " ++ Text.quote e.pattern
  match e.fault with
  | .empty => "Empty pattern"
  | .noLeadingSlash => subject ++ " must start with '/'"
  | .emptySegment => subject ++ " contains an empty segment"
  | .malformedWildcard segment =>
      subject ++ " has a malformed wildcard segment " ++ Text.quote segment
  | .invalidName name => subject ++ " has an invalid wildcard name " ++ Text.quote name
  | .duplicateName name => subject ++ " uses wildcard name " ++ Text.quote name ++ " more than once"
  | .multiNotFinal =>
      subject ++ " has a multi-segment wildcard that is not the final segment"
  | .slashNotFinal =>
      subject ++ " has a trailing-slash marker that is not the final segment"

end PathRouter.Pattern
