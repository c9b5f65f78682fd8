import PathRouter.Server.Run
import PathRouter.Settings.Layers

/-!
The program: it loads its settings and starts a server on them.
-/

namespace PathRouter.Program

inductive Failure where
  | settings (error : Settings.LoadError)
  | startup (error : StartupError)

/-- Whatever is wrong with the settings is told in the same words. -/
def Failure.message : Failure → String
  | .settings _ => "Failed to load configuration"
  | .startup error => error.message

/-- What lies behind the failure, the nearest cause first. -/
def Failure.causes : Failure → List String
  | .settings error => [error.message]
  | .startup error => error.causes

/-- The lines for what lies behind a failure. Several causes are numbered. -/
def causeLines : List String → List String
  | [] => []
  | [cause] => ["", "Caused by:", "    " ++ cause]
  | causes =>
      ["", "Caused by:"] ++ causes.mapIdx fun i cause => "    " ++ toString i ++ ": " ++ cause

/-- What is written for a failure. -/
def Failure.report (f : Failure) : String :=
  "\n".intercalate (("Error: " ++ f.message) :: causeLines f.causes)

/-- Runs the program with the name of a file of settings if one is given. -/
def start (network : Network) (env : Settings.Environment) (named : Option String) :
    Except Failure (Net.SocketAddress × Server) := do
  let settings ← (Settings.load env named).mapError .settings
  (Server.start network settings).result.mapError .startup

end PathRouter.Program
