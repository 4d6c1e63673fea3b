import NotebookHost.Notebook.Basic
import NotebookHost.PortRange

namespace NotebookHost

structure Process where
  pid : Nat
  id : String
  port : Port
  generation : Nat
  args : List String
  deriving DecidableEq, Repr

inductive Ending where
  | success
  | failure
  deriving DecidableEq, Repr

def Ending.status : Ending → Status
  | .success => .stopped
  | .failure => .error

structure Handle where
  id : String
  notebook : Notebook
  port : Port
  status : Status := .pending
  process : Option Process := none
  -- Counts the launches of one notebook. Its processes and their monitors carry the count, which is only ever compared
  -- for equality. A counter of 64 bits would differ from it after 2 ^ 64 launches, of which each takes a new process.
  generation : Nat := 0
  deriving DecidableEq

namespace Handle

def ofNotebook (n : Notebook) (port : Port) : Handle := { id := n.id, notebook := n, port }

def adopt (n : Notebook) (h : Handle) : Handle :=
  { h with notebook := n, status := if h.process.isSome then .restarting else h.status }

def release (h : Handle) : Handle := { h with process := none }

def settle (status : Status) (h : Handle) : Handle := { h with status }

def launched (p : Process) (h : Handle) : Handle :=
  { h with generation := p.generation, status := .running, process := some p }

/-- Whether a monitor of the generation still speaks for the handle. -/
def heeds (generation : Nat) (h : Handle) : Bool :=
  h.generation == generation && h.process.isSome

def exited (generation : Nat) (ending : Ending) (h : Handle) : Handle :=
  if h.heeds generation then { h with process := none, status := ending.status } else h

def signalled (generation : Nat) (h : Handle) : Handle :=
  if h.heeds generation then { h with process := none, status := .stopped } else h

end Handle

end NotebookHost
