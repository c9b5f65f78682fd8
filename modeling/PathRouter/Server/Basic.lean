import PathRouter.Server.Outcome

/-!
A server: its table, its settings, and the totals of what it has done.
-/

namespace PathRouter

structure Server where
  table : Router Action
  settings : Settings
  metrics : Metrics

namespace Server

/-- Makes a server that has its table but does not listen yet, and tells the totals after the
attempt. Without a valid table nothing is recorded. -/
def prepareAfter (totals : Metrics) (settings : Settings) : Except StartupError Server × Metrics :=
  match Table.ofEntries settings.routes with
  | .error e => (.error e, totals)
  | .ok table =>
      let totals := totals.setRegistered table.size
      (.ok ⟨table, settings, totals⟩, totals)

/-- The same where nothing has been recorded before. -/
def prepare (settings : Settings) : Except StartupError Server := (prepareAfter {} settings).1

/-- Answers a request and records it: it is counted when it comes in, and timed when it is done. -/
def handle (s : Server) (method path : String) : Outcome × Server :=
  let (outcome, totals) := Table.dispatch s.table method path s.metrics.countRequest
  (outcome, { s with metrics := totals.sampleLatency })

/-- Answers requests one after the other. -/
def handleAll (s : Server) : List (String × String) → List Outcome × Server
  | [] => ([], s)
  | (method, path) :: rest =>
      let (outcome, s) := s.handle method path
      let (outcomes, s) := s.handleAll rest
      (outcome :: outcomes, s)

def version : String := "0.1.0"

/-- The path on which a server tells that it runs. It comes before all routes and is not counted. -/
def healthPath : String := "/health"

def health (method : String) : Http.Response :=
  if method = "GET" || method = "HEAD" then
    .json 200 [] (.obj [("status", .str "ok"), ("version", .str version)])
  else ⟨405, [("allow", "GET,HEAD")], none⟩

/-- Answers a request as it comes over a connection. -/
def answer (s : Server) (method target : String) : Http.Response × Server :=
  let path := Http.pathOf target
  if path = healthPath then ((health method).sent method, s)
  else
    let (outcome, s) := s.handle method path
    (outcome.response.sent method, s)

end Server

end PathRouter
