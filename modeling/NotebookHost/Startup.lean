import NotebookHost.FileTree
import NotebookHost.ListenAddress
import NotebookHost.Settings.Load

/-!
Starting the program: the settings are read, the database is opened in its directory, and the
addresses to listen on are worked out, in this order; the first step that fails ends the start.
-/

namespace NotebookHost

open Text

def EditorSettings.commandLine (e : EditorSettings) : List String :=
  ["edit", "--headless", "-p", e.port.toText, "--skip-update-check", "--watch", "--allow-origins",
    "*", "--no-token"]

namespace Startup

def defaultSettingsFile : String := "notebook-hub.toml"

inductive StartError where
  | unreadable (cause : PathError)
  | settings (cause : Settings.LoadError)
  | directory (path : String) (cause : PathError)
  | database (path : String) (cause : Failure)
  | address (text : String)
  deriving DecidableEq, Repr

def StartError.message : StartError → String
  | .unreadable e => e.message
  | .settings e => e.message
  | .directory path _ => "failed to create database directory '" ++ path ++ "'"
  | .database path _ => "failed to open registry at '" ++ path ++ "'"
  | .address text => "invalid listen address " ++ text

def StartError.cause? : StartError → Option String
  | .unreadable _ => none
  | .settings _ => none
  | .directory _ e => some e.message
  | .database _ e => some e.message
  | .address _ => some "invalid socket address syntax"

def indented (s : String) : String :=
  String.ofList (s.toList.flatMap fun c => if c = '\n' then "\n    ".toList else [c])

def StartError.report (e : StartError) : String :=
  "Error: " ++ e.message ++ "\n" ++
    match e.cause? with
    | none => ""
    | some cause => "\nCaused by:\n    " ++ indented cause ++ "\n"

def absolute (workingDirectory path : String) : String :=
  if path.toList.head? = some '/' then path else workingDirectory ++ "/" ++ path

def settingsFile (t : FileTree) (workingDirectory : String) (args : List String) :
    Except StartError (Option (List UInt8)) :=
  let path := args.head?.getD defaultSettingsFile
  if path.isEmpty then .ok none
  else (t.read (absolute workingDirectory path)).mapError .unreadable

def loadSettings (file : Option (List UInt8)) (env : String → Option String) :
    Except StartError Settings :=
  (Settings.load file env).mapError .settings

def openDatabase (t : FileTree) (path : String) : Except StartError (FileTree × Database) := do
  let t ←
    match FileTree.parent? path with
    | none => .ok t
    | some parent => (t.makeDirectories parent).mapError (.directory parent)
  (t.openDatabase path).mapError (.database path)

def listenAddress (host : String) (port : Port) : Except StartError ListenAddress :=
  let text := host ++ ":" ++ port.toText
  match ListenAddress.ofText? text with
  | some a => .ok a
  | none => .error (.address text)

def addresses (s : ServerSettings) : Except StartError (ListenAddress × ListenAddress) := do
  let proxy ← listenAddress s.bind s.proxyPort
  let api ← listenAddress s.bind s.apiPort
  .ok (proxy, api)

def editor? (s : Settings) : Option (List String × String) :=
  if s.editor.enabled then some (s.editor.commandLine, s.notebooks.path) else none

structure Program where
  settings : Settings
  files : FileTree
  database : Database
  proxy : ListenAddress
  api : ListenAddress
  editor : Option (List String × String)

def start (t : FileTree) (workingDirectory : String) (args : List String)
    (env : String → Option String) : Except StartError Program := do
  let file ← settingsFile t workingDirectory args
  let settings ← loadSettings file env
  let (files, database) ← openDatabase t settings.database.path
  let (proxy, api) ← addresses settings.server
  .ok { settings, files, database, proxy, api, editor := editor? settings }

end Startup

end NotebookHost
