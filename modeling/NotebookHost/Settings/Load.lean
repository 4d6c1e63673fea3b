import NotebookHost.Settings.Document
import NotebookHost.Text.Utf8

/-!
Settings as a program starts with them: from the file, if there is one, overridden from the
environment, and then checked. The checks keep the ports of notebooks apart from the ports on which
the program itself listens.
-/

namespace NotebookHost.Settings

open Text

inductive OverrideError where
  | badPort (variableName : String) (cause : NumeralError)
  | badRange (cause : PortRange.SyntaxError)
  deriving DecidableEq, Repr

def OverrideError.message : OverrideError → String
  | .badPort v e => "failed to parse environment variable " ++ v ++ ": " ++ e.message
  | .badRange e => "invalid port range: " ++ e.message

def portVariable (env : String → Option String) (name : String) (current : Port) :
    Except OverrideError Port :=
  match env name with
  | none => .ok current
  | some value => (Port.read value.toList).mapError (.badPort name)

def rangeVariable (env : String → Option String) (name : String) (current : PortRange) :
    Except OverrideError PortRange :=
  match env name with
  | none => .ok current
  | some value => (PortRange.ofText value).mapError .badRange

def overridden (s : Settings) (env : String → Option String) : Except OverrideError Settings := do
  let apiPort ← portVariable env "API_PORT" s.server.apiPort
  let proxyPort ← portVariable env "PROXY_PORT" s.server.proxyPort
  let editorPort ← portVariable env "MARIMO_PORT" s.editor.port
  let ports ← rangeVariable env "NOTEBOOK_PORT_RANGE" s.notebooks.ports
  pure { s with
    server := { s.server with apiPort, proxyPort }
    editor := { s.editor with port := editorPort }
    notebooks := { s.notebooks with path := (env "NOTEBOOKS_PATH").getD s.notebooks.path, ports }
    database := { s.database with path := (env "DB_PATH").getD s.database.path } }

inductive Fault where
  | zeroPort (name : String)
  | emptyRange
  | conflict (name : String) (port : Port)
  | relativeNotebooks
  | relativeDatabase
  | relativeSocket
  | noProgram
  deriving DecidableEq, Repr

def Fault.message : Fault → String
  | .zeroPort name => "invalid " ++ name ++ ": port must be between 1 and 65535"
  | .emptyRange => "invalid notebook port range: start port must be less than end port"
  | .conflict name port =>
    "port conflict: " ++ name ++ " (" ++ port.toText ++ ") conflicts with notebook port range"
  | .relativeNotebooks => "notebooks path must be absolute"
  | .relativeDatabase => "database path must be absolute"
  | .relativeSocket => "websocket path must start with '/'"
  | .noProgram => "runner program must not be empty"

def isAbsolute (path : String) : Bool := path.toList.head? == some '/'

def namedPorts (s : Settings) : List (String × Port) :=
  [("API port", s.server.apiPort), ("proxy port", s.server.proxyPort),
    ("editor port", s.editor.port), ("notebook port range start", s.notebooks.ports.first),
    ("notebook port range end", s.notebooks.ports.last)]

def listeners (s : Settings) : List (String × Port) :=
  [("API port", s.server.apiPort), ("proxy port", s.server.proxyPort)] ++
    (if s.editor.enabled then [("editor port", s.editor.port)] else [])

def faults (s : Settings) : List Fault :=
  (s.namedPorts.filter (·.2 == 0)).map (fun p => .zeroPort p.1) ++
    (if s.notebooks.ports.last ≤ s.notebooks.ports.first then [.emptyRange] else []) ++
    (s.listeners.filter (s.notebooks.ports.contains ·.2)).map (fun p => .conflict p.1 p.2) ++
    (if isAbsolute s.notebooks.path then [] else [.relativeNotebooks]) ++
    (if isAbsolute s.database.path then [] else [.relativeDatabase]) ++
    (if isAbsolute s.socket.path then [] else [.relativeSocket]) ++
    (if s.launch.program.isEmpty then [.noProgram] else [])

inductive LoadError where
  | notText
  | badDocument
  | badOverride (cause : OverrideError)
  | refused (faults : List Fault)
  deriving DecidableEq, Repr

def LoadError.message : LoadError → String
  | .notText => "stream did not contain valid UTF-8"
  | .badDocument => "TOML parse error"
  | .badOverride e => e.message
  | .refused fs => "Configuration errors:\n  - " ++ "\n  - ".intercalate (fs.map Fault.message)

def ofFile (file : Option (List UInt8)) : Except LoadError Settings :=
  match file with
  | none => .ok {}
  | some bytes =>
    match decode? bytes with
    | none => .error .notText
    | some text =>
      match ofDocument? text with
      | none => .error .badDocument
      | some s => .ok s

def load (file : Option (List UInt8)) (env : String → Option String) : Except LoadError Settings :=
  match ofFile file with
  | .error e => .error e
  | .ok s =>
    match s.overridden env with
    | .error e => .error (.badOverride e)
    | .ok s =>
      match s.faults with
      | [] => .ok s
      | fs => .error (.refused fs)

end NotebookHost.Settings
