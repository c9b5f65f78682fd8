import PathRouter.Server.Metrics
import PathRouter.Server.Table
import PathRouter.Text.Percent

/-!
Answering a request from the table. A path is looked up as it is encoded, so that an encoded slash
does not divide it; the values of its wildcards are decoded afterwards.
-/

namespace PathRouter

inductive Outcome where
  | matched (route : String) (status : Nat) (body : Json)
  | methodNotAllowed (route : String) (allow : String)
  | notFound (path : String)

namespace Outcome

/-- The decoded values of the wildcards under their names. -/
def capturesJson (c : Captures) : Json :=
  .ofMembers (c.entries.map fun (name, value) =>
    (Captures.label name, .str (Text.Percent.decode value)))

/-- What is told of a match. -/
def matchBody (m : Match Action) : Json := .obj [
  ("route", .str m.route.name),
  ("pattern", .str m.route.pattern.render),
  ("captures", capturesJson m.captures),
  ("body", m.route.action.body)]

def response : Outcome → Http.Response
  | .matched _ status body => .json status [] body
  | .methodNotAllowed route allow =>
      .json 405 [("allow", allow)]
        (.obj [("error", .str "method not allowed"), ("route", .str route)])
  | .notFound path => .json 404 [] (.obj [("error", .str "not found"), ("path", .str path)])

end Outcome

/-- Looks a request up in the table and counts what comes of it. The route is chosen by the path
alone. -/
def Table.dispatch (table : Router Action) (method path : String) (totals : Metrics) :
    Outcome × Metrics :=
  match table.resolve path with
  | none => (.notFound path, totals.countMiss)
  | some m =>
      let action := m.route.action
      if action.accepts method then
        (.matched m.route.name action.status (Outcome.matchBody m), totals.countMatch m.route.name)
      else (.methodNotAllowed m.route.name action.methodList, totals.countRefusal m.route.name)

end PathRouter
