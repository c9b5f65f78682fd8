import PathRouter.Http.Message
import PathRouter.Router.Registry
import PathRouter.Server.Error

/-!
The table of a server: a router whose actions say which methods are allowed and what to answer.
-/

namespace PathRouter

structure Action where
  /-- In capital letters; with none listed all methods are allowed. -/
  methods : List String
  status : Nat
  body : Json

namespace Action

def accepts (a : Action) (method : String) : Bool :=
  a.methods.isEmpty || a.methods.contains method

/-- The methods as a list in a header. -/
def methodList (a : Action) : String := ", ".intercalate a.methods

/-- A method of a route, in capital letters. -/
def readMethod (route method : String) : Except StartupError String :=
  if Http.isToken method.toUpper then .ok method.toUpper else .error (.invalidMethod route method)

def readStatus (route : String) (status : UInt16) : Except StartupError Nat :=
  if Http.isStatus status.toNat then .ok status.toNat else .error (.invalidStatus route status)

/-- The action of an entry. Its methods are checked in order, and then its status. -/
def ofEntry (entry : RouteEntry) : Except StartupError Action := do
  let methods ← entry.methods.mapM (readMethod entry.name)
  let status ← readStatus entry.name entry.status
  .ok ⟨methods, status, entry.body.getD .null⟩

end Action

namespace Table

/-- Registers the route of an entry beside those before it. That a route is refused does not end the
work; the registry tells it when it is finished. -/
def enter (reg : Registry Action) (entry : RouteEntry) :
    Except StartupError (Registry Action) := do
  let action ← Action.ofEntry entry
  .ok (reg.including entry.name entry.pattern action)

/-- The table of the entries. An entry that has no action ends the work at once. -/
def ofEntries (entries : List RouteEntry) : Except StartupError (Router Action) := do
  let reg ← entries.foldlM enter Registry.empty
  reg.finish.mapError .invalidTable

end Table

end PathRouter
