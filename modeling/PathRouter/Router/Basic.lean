import PathRouter.Pattern.Basic
import PathRouter.Router.Captures
import PathRouter.Trie
import Std.Data.HashMap

/-!
Routers: a table of routes, a trie that finds the route of a path, and an index of the names. The
table gives each route the number that the trie and the index know it by.
-/

namespace PathRouter

structure Route (α : Type u) where
  name : String
  pattern : Pattern
  action : α

/-- A route that a path leads to, with the values of its wildcards. -/
structure Match (α : Type u) where
  route : Route α
  captures : Captures

structure Router (α : Type u) where
  root : Trie
  routes : Array (Route α)
  index : Std.HashMap String RouteId

namespace Router

/-- How many routes there are, how many nodes they take, and how far down these go. -/
structure Dimensions where
  routes : Nat
  nodes : Nat
  depth : Nat
  deriving DecidableEq, Repr

variable {α : Type u}

/-- The route that a path leads to. -/
def resolve (r : Router α) (path : String) : Option (Match α) :=
  match r.root.find path #[] with
  | (some id, values) =>
      r.routes[id]?.map fun route => ⟨route, .pair route.pattern.boundNames values.toList⟩
  | (none, _) => none

/-- The route of a name. -/
def named? (r : Router α) (name : String) : Option (Route α) :=
  r.index[name]?.bind fun id => r.routes[id]?

def size (r : Router α) : Nat := r.routes.size

def isEmpty (r : Router α) : Bool := r.routes.isEmpty

def dimensions (r : Router α) : Dimensions := ⟨r.routes.size, r.root.nodeCount, r.root.depth⟩

end Router

end PathRouter
