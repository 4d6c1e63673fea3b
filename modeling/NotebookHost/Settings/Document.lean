import NotebookHost.Settings.Basic
import NotebookHost.Toml.Document

namespace NotebookHost.Settings

open Toml

def group? (names : List String) : Value → Option (List (Option Value))
  | .table entries => some (names.map fun n => (entries.find? (·.1 == n)).map (·.2))
  | .array items => some ((List.range names.length).map (items[·]?))
  | .time => some (names.map fun _ => none)
  | _ => none

def text? : Value → Option String
  | .string t => some t
  | _ => none

def bool? : Value → Option Bool
  | .boolean b => some b
  | _ => none

def nat? : Value → Option Nat
  | .integer n => if 0 ≤ n then some n.toNat else none
  | _ => none

def port? (v : Value) : Option Port :=
  (nat? v).bind fun n => if n < 65536 then some (UInt16.ofNat n) else none

def texts? : Value → Option (List String)
  | .array items => items.mapM text?
  | _ => none

/-- The value read by `read`, or the default if it is left out; the outer `none` is a value of
another kind. -/
def orElse {α : Type} (read : Value → Option α) (default : α) : Option Value → Option α
  | none => some default
  | some v => read v

def server? (v : Value) : Option ServerSettings := do
  let d : ServerSettings := {}
  match ← group? ["bind", "api_port", "proxy_port", "pool_max_idle_per_host",
      "pool_idle_timeout_secs", "request_timeout_secs", "connect_timeout_secs"] v with
  | [bind, apiPort, proxyPort, maxIdle, idleSeconds, requestSeconds, connectSeconds] =>
    some {
      bind := ← orElse text? d.bind bind
      apiPort := ← orElse port? d.apiPort apiPort
      proxyPort := ← orElse port? d.proxyPort proxyPort
      maxIdle := ← orElse nat? d.maxIdle maxIdle
      idleSeconds := ← orElse nat? d.idleSeconds idleSeconds
      requestSeconds := ← orElse nat? d.requestSeconds requestSeconds
      connectSeconds := ← orElse nat? d.connectSeconds connectSeconds }
  | _ => none

def socket? (v : Value) : Option SocketSettings := do
  let d : SocketSettings := {}
  match ← group? ["path", "origins", "subprotocols"] v with
  | [path, origins, subprotocols] =>
    some {
      path := ← orElse text? d.path path
      origins := ← orElse texts? d.origins origins
      subprotocols := ← orElse texts? d.subprotocols subprotocols }
  | _ => none

def range? (v : Value) : Option PortRange := do
  match ← group? ["start", "end"] v with
  | [some first, some last] => some ⟨← port? first, ← port? last⟩
  | _ => none

def notebooks? (v : Value) : Option NotebookSettings := do
  let d : NotebookSettings := {}
  match ← group? ["path", "port_range"] v with
  | [path, ports] =>
    some { path := ← orElse text? d.path path, ports := ← orElse range? d.ports ports }
  | _ => none

def launch? (v : Value) : Option LaunchSettings := do
  let d : LaunchSettings := {}
  match ← group? ["program", "args", "host"] v with
  | [program, args, host] =>
    some {
      program := ← orElse text? d.program program
      args := ← orElse texts? d.args args
      host := ← orElse text? d.host host }
  | _ => none

def editor? (v : Value) : Option EditorSettings := do
  let d : EditorSettings := {}
  match ← group? ["enabled", "port"] v with
  | [enabled, port] =>
    some { enabled := ← orElse bool? d.enabled enabled, port := ← orElse port? d.port port }
  | _ => none

def database? (v : Value) : Option DatabaseSettings := do
  let d : DatabaseSettings := {}
  match ← group? ["path"] v with
  | [path] => some { path := ← orElse text? d.path path }
  | _ => none

def ofTable? (entries : List (String × Value)) : Option Settings := do
  match ← group? ["server", "websocket", "notebooks", "runner", "editor", "database"]
      (.table entries) with
  | [server, socket, notebooks, launch, editor, database] =>
    some {
      server := ← orElse server? {} server
      socket := ← orElse socket? {} socket
      notebooks := ← orElse notebooks? {} notebooks
      launch := ← orElse launch? {} launch
      editor := ← orElse editor? {} editor
      database := ← orElse database? {} database }
  | _ => none

def ofDocument? (s : String) : Option Settings := (Toml.read s).bind ofTable?

end NotebookHost.Settings
