import NotebookHost.Startup

namespace NotebookHost.CommandLine

def overrideNames : List String :=
  ["API_PORT", "PROXY_PORT", "MARIMO_PORT", "NOTEBOOKS_PATH", "NOTEBOOK_PORT_RANGE", "DB_PATH"]

def readEnvironment : IO (String → Option String) := do
  let pairs ← overrideNames.mapM fun name => do pure (name, ← IO.getEnv name)
  pure fun name => (pairs.find? (·.1 == name)).bind (·.2)

def readFile? (path : String) : IO (Option (List UInt8)) := do
  try
    let bytes ← IO.FS.readBinFile path
    pure (some bytes.toList)
  catch
    | .noFileOrDirectory .. => pure none
    | e => throw e

def prepare (file : Option (List UInt8)) (env : String → Option String) :
    Except Startup.StartError Settings := do
  let settings ← Startup.loadSettings file env
  let _ ← Startup.addresses settings.server
  .ok settings

end NotebookHost.CommandLine

open NotebookHost CommandLine in
def main (args : List String) : IO UInt32 := do
  let file ← readFile? (args.head?.getD Startup.defaultSettingsFile)
  match prepare file (← readEnvironment) with
  | .error e =>
    (← IO.getStderr).putStr e.report
    pure 1
  | .ok s =>
    IO.println ("proxy " ++ s.server.bind ++ ":" ++ s.server.proxyPort.toText)
    IO.println ("api " ++ s.server.bind ++ ":" ++ s.server.apiPort.toText)
    pure 0
