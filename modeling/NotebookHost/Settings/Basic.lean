import NotebookHost.PortRange

namespace NotebookHost

structure ServerSettings where
  bind : String := "0.0.0.0"
  apiPort : Port := 8081
  proxyPort : Port := 80
  maxIdle : Nat := 10
  idleSeconds : Nat := 90
  requestSeconds : Nat := 60
  connectSeconds : Nat := 10
  deriving DecidableEq, Repr

structure SocketSettings where
  path : String := "/ws"
  origins : List String := ["*"]
  subprotocols : List String := []
  deriving DecidableEq, Repr

structure NotebookSettings where
  path : String := "/notebooks"
  ports : PortRange := ⟨3000, 4000⟩
  deriving DecidableEq, Repr

structure LaunchSettings where
  program : String := "marimo"
  args : List String := ["run"]
  host : String := "127.0.0.1"
  deriving DecidableEq, Repr

structure EditorSettings where
  enabled : Bool := false
  port : Port := 8080
  deriving DecidableEq, Repr

structure DatabaseSettings where
  path : String := "/data/notebook-hub.db"
  deriving DecidableEq, Repr

structure Settings where
  server : ServerSettings := {}
  socket : SocketSettings := {}
  notebooks : NotebookSettings := {}
  launch : LaunchSettings := {}
  editor : EditorSettings := {}
  database : DatabaseSettings := {}
  deriving DecidableEq, Repr

def ServerSettings.requestLimit? (s : ServerSettings) : Option Nat :=
  if s.requestSeconds = 0 then none else some s.requestSeconds

def SocketSettings.allows (s : SocketSettings) (origin : Option String) : Bool :=
  s.origins.contains "*" || origin.any s.origins.contains

end NotebookHost
