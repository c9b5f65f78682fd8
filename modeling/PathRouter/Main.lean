import PathRouter.Server.Program

/-!
The command line. The one argument is a file of settings. Once the server has started, it answers
the requests that come in on standard input, as a program does that is started for a connection.
-/

namespace PathRouter.CommandLine

/-- The variables of the environment, as far as they are text. -/
def readVariables : IO (List (String × String)) := do
  let bytes ← IO.FS.readBinFile "/proc/self/environ"
  let text := (String.fromUTF8? bytes).getD ""
  return (text.splitOn "\x00").filterMap fun entry =>
    match entry.splitOn "=" with
    | name :: value :: more => some (name, "=".intercalate (value :: more))
    | _ => none

/-- The text of a file, if it is there and can be read. -/
def readFile? (path : String) : IO (Option String) := do
  try return some (← IO.FS.readFile path) catch _ => return none

/-- The texts of all files that settings may come from. -/
def readEnvironment (named : Option String) : IO Settings.Environment := do
  let home ← IO.getEnv "HOME"
  let paths := match named with
    | some path => [path, path ++ ".toml"]
    | none => Settings.searchPath home
  let texts ← paths.filterMapM fun path => do
    return (← readFile? path).map fun text => (path, text)
  return { file? := fun path => texts.lookup path, home, vars := ← readVariables }

/-- Reads the headers of a request, which nothing depends on. -/
partial def skipHeaders (input : IO.FS.Stream) : IO Unit := do
  let line ← input.getLine
  unless line.trimAscii.isEmpty do skipHeaders input

partial def serve (input output : IO.FS.Stream) (server : Server) : IO Unit := do
  let line ← input.getLine
  if line.isEmpty then return
  match Http.requestLine? line with
  | none => serve input output server
  | some (method, target) =>
      skipHeaders input
      let (response, server) := server.answer method target
      output.putStr response.render
      output.flush
      serve input output server

/-- Every address counts as free: the connection is there already. -/
def network : Network := ⟨fun _ => true, fun _ => true⟩

end PathRouter.CommandLine

open PathRouter in
def main (args : List String) : IO UInt32 := do
  let named := args.head?
  match Program.start CommandLine.network (← CommandLine.readEnvironment named) named with
  | .error failure =>
      IO.eprintln failure.report
      return 1
  | .ok (_, server) =>
      CommandLine.serve (← IO.getStdin) (← IO.getStdout) server
      return 0
