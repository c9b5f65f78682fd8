import PathRouter.Pattern.Parser
import PathRouter.Relation
import PathRouter.Relation.Witness
import PathRouter.Router.Basic
import PathRouter.Router.Error

/-!
Collecting routes. Each new pattern is compared with all patterns before it. A route that could not
be told from one of them on some path is refused; the refusal is remembered, and a registry in which
any route was refused makes no router.
-/

namespace PathRouter

structure Registry (α : Type u) where
  root : Trie
  routes : Array (Route α)
  index : Std.HashMap String RouteId
  /-- The refusals in the order in which they came. -/
  refusals : Array RouteError

namespace Registry

variable {α : Type u}

def empty : Registry α := ⟨.empty, #[], {}, #[]⟩

instance : Inhabited (Registry α) := ⟨empty⟩

def size (reg : Registry α) : Nat := reg.routes.size

def isEmpty (reg : Registry α) : Bool := reg.routes.isEmpty

/-- Why a new route cannot stand beside an existing one, if it cannot. -/
def conflict? (name : String) (p : Pattern) (existing : Route α) : Option RouteError :=
  let q := existing.pattern
  let pair : RoutePair := ⟨name, p.render, existing.name, q.render⟩
  match p.relation q with
  | .equivalent => some (.equivalent pair (p.sharedPath q))
  | .overlapping => some (.overlapping pair (p.sharedPath q) (p.ownPath q) (q.ownPath p))
  | .moreGeneral | .moreSpecific | .disjoint => none

/-- Gives the next number to a route whose pattern conflicts with no other. Its place in the trie is
taken only if another route conflicts with it after all. -/
def place (reg : Registry α) (name : String) (p : Pattern) (action : α) :
    Except RouteError RouteId × Registry α :=
  let id := reg.routes.size
  match reg.root.insert id p.segments with
  | (some holder, root) =>
      (.error (.sameNode name ((reg.routes[holder]?.map (·.name)).getD "")), { reg with root })
  | (none, root) =>
      (.ok id, { reg with
        root
        routes := reg.routes.push ⟨name, p, action⟩
        index := reg.index.insert name id })

/-- Adds a route, or tells why not. A taken name is told before a pattern that does not parse, and
that before the first existing route with which the pattern conflicts. -/
def tryAdd (reg : Registry α) (name text : String) (action : α) :
    Except RouteError RouteId × Registry α :=
  if reg.index.contains name then (.error (.duplicateName name), reg)
  else match Pattern.parse text with
    | .error source => (.error (.parse name source), reg)
    | .ok p =>
        match reg.routes.findSome? (conflict? name (p.withName name)) with
        | some error => (.error error, reg)
        | none => reg.place name (p.withName name) action

/-- Adds a route, and remembers a refusal. -/
def add (reg : Registry α) (name text : String) (action : α) :
    Except RouteError RouteId × Registry α :=
  match reg.tryAdd name text action with
  | (.error e, reg) => (.error e, { reg with refusals := reg.refusals.push e })
  | (.ok id, reg) => (.ok id, reg)

/-- Adds a route for the sake of the registry alone. -/
def including (reg : Registry α) (name text : String) (action : α) : Registry α :=
  (reg.add name text action).2

def addAll (reg : Registry α) (entries : List (String × String × α)) : Registry α :=
  entries.foldl (fun reg entry => reg.including entry.1 entry.2.1 entry.2.2) reg

/-- The router of the routes, unless one was refused. -/
def finish (reg : Registry α) : Except BuildError (Router α) :=
  match reg.refusals.toList with
  | [] => .ok ⟨reg.root, reg.routes, reg.index⟩
  | [error] => .error (.single error)
  | errors => .error (.batch errors)

end Registry

namespace Router

variable {α : Type u}

/-- The router of the given names, patterns and actions. -/
def ofList (entries : List (String × String × α)) : Except BuildError (Router α) :=
  (Registry.empty.addAll entries).finish

end Router

end PathRouter
