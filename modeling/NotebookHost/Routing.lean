import NotebookHost.Failure
import NotebookHost.Notebook.Basic
import NotebookHost.Refusal

namespace NotebookHost

structure Backend where
  id : String
  port : Port
  deriving DecidableEq, Repr

inductive RouteError where
  | unknownHost
  | portUnavailable (id : String)
  | notRunning (id : String) (status : Option Status)
  deriving DecidableEq, Repr

namespace RouteError

def message : RouteError → String
  | .unknownHost => "Notebook not found for this domain"
  | .portUnavailable _ => "Notebook port not available"
  | .notRunning _ _ => "Notebook not running"

def refusal : RouteError → Refusal
  | .unknownHost => .unknownHost
  | .portUnavailable _ => .portUnavailable
  | .notRunning _ _ => .notRunning

def closeCode : RouteError → Nat
  | .unknownHost => 1000
  | .portUnavailable _ => 1011
  | .notRunning _ _ => 1013

def id? : RouteError → Option String
  | .unknownHost => none
  | .portUnavailable id => some id
  | .notRunning id _ => some id

def status? : RouteError → Option Status
  | .notRunning _ status => status
  | _ => none

def rejection (e : RouteError) : Rejection := ⟨e.refusal, e.message⟩

end RouteError

structure Directory where
  owner? : String → Option Notebook
  port? : String → Option Port
  status : String → Except Failure Status

def Directory.resolve (d : Directory) (host : String) : Except RouteError Backend :=
  match d.owner? host with
  | none => .error .unknownHost
  | some n =>
    match d.port? n.id with
    | none => .error (.portUnavailable n.id)
    | some port =>
      match d.status n.id with
      | .ok .running => .ok ⟨n.id, port⟩
      | .ok status => .error (.notRunning n.id (some status))
      | .error _ => .error (.notRunning n.id none)

end NotebookHost
