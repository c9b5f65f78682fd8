import PathRouter.Pattern.Error

/-!
Why a route is refused, and why a set of routes makes no router.
-/

namespace PathRouter

/-- The names of two routes with their patterns as they are written out. -/
structure RoutePair where
  name : String
  pattern : String
  existing : String
  existingPattern : String
  deriving DecidableEq, Repr

inductive RouteError where
  | parse (name : String) (source : Pattern.ParseError)
  | duplicateName (name : String)
  /-- Both match the same paths; the witness is one of them. -/
  | equivalent (pair : RoutePair) (witness : String)
  /-- Both match the witness, and each matches a path that the other does not. -/
  | overlapping (pair : RoutePair) (witness onlyNew onlyExisting : String)
  /-- The trie has the same place for both. -/
  | sameNode (name existing : String)
  deriving DecidableEq, Repr

namespace RoutePair

def opening (p : RoutePair) : String :=
  "Routes " ++ p.existing ++ " (" ++ p.existingPattern ++ ") and " ++ p.name ++ " (" ++
    p.pattern ++ ")"

end RoutePair

def RouteError.message : RouteError → String
  | .parse name source => "Route " ++ name ++ ": " ++ source.message
  | .duplicateName name => "Duplicate route name: " ++ name
  | .equivalent pair witness =>
      pair.opening ++ " match the same paths, like " ++ Text.quote witness
  | .overlapping pair witness onlyNew onlyExisting =>
      pair.opening ++ " both match some paths, like " ++ Text.quote witness ++
        ", but neither is more specific: " ++ pair.name ++ " matches " ++ Text.quote onlyNew ++
        " but " ++ pair.existing ++ " doesn't, and " ++ pair.existing ++ " matches " ++
        Text.quote onlyExisting ++ " but " ++ pair.name ++ " doesn't"
  | .sameNode name existing =>
      "Routes " ++ existing ++ " and " ++ name ++ " resolve to the same node"

/-- One refused route is reported as it is, several together. -/
inductive BuildError where
  | single (error : RouteError)
  | batch (errors : List RouteError)
  deriving DecidableEq, Repr

def BuildError.message : BuildError → String
  | .single error => error.message
  | .batch errors =>
      toString errors.length ++ " route registrations failed: " ++
        "; ".intercalate (errors.map RouteError.message)

end PathRouter
