import PathRouter.Text.Quoted

/-!
The values that a path gives to the wildcards of the pattern it matches, in path order. A value
whose wildcard is anonymous has no name.
-/

namespace PathRouter

structure Captures where
  entries : List (Option String × String)
  deriving DecidableEq, Repr

namespace Captures

/-- Gives names to values, both in path order. -/
def pair (names : List (Option String)) (values : List String) : Captures := ⟨names.zip values⟩

/-- The value bound to a name. Anonymous values are not found under any name. -/
def get? (c : Captures) (name : String) : Option String :=
  (c.entries.find? fun entry => entry.1 == some name).map (·.2)

def values (c : Captures) : List String := c.entries.map (·.2)

def size (c : Captures) : Nat := c.entries.length

def isEmpty (c : Captures) : Bool := c.entries.isEmpty

/-- What stands for the name of an anonymous value. -/
def anonymousLabel : String := "..."

def label (name : Option String) : String := name.getD anonymousLabel

def renderEntry (entry : Option String × String) : String :=
  label entry.1 ++ "=" ++ Text.quote entry.2

def render (c : Captures) : String := ", ".intercalate (c.entries.map renderEntry)

end Captures

end PathRouter
