import NotebookHost.Instant.Basic

namespace NotebookHost

structure Notebook where
  id : String
  name : String
  path : String
  domain : String
  showCode : Bool
  watch : Bool
  createdAt : Instant
  deriving DecidableEq

inductive Change where
  | added
  | updated
  | deleted
  deriving DecidableEq, Repr

structure Event where
  change : Change
  notebook : Notebook
  deriving DecidableEq

inductive Status where
  | pending
  | running
  | stopped
  | error
  | restarting
  deriving DecidableEq, Repr

def Change.name : Change → String
  | .added => "add"
  | .updated => "update"
  | .deleted => "delete"

def Change.ofName? (s : String) : Option Change :=
  [Change.added, .updated, .deleted].find? (·.name == s)

def Status.name : Status → String
  | .pending => "Pending"
  | .running => "Running"
  | .stopped => "Stopped"
  | .error => "Error"
  | .restarting => "Restarting"

def Status.ofName? (s : String) : Option Status :=
  [Status.pending, .running, .stopped, .error, .restarting].find? (·.name == s)

end NotebookHost
