import NotebookHost.PortRange

namespace NotebookHost

inductive Failure where
  | invalid (reason : String)
  | domainTaken (domain : String)
  | unknown (id : String)
  | alreadyRunning (id : String)
  | notRunning (id : String)
  | launch (id : String) (cause : String)
  | kill (pid : Nat) (cause : String)
  | portsExhausted (range : PortRange)
  | storage (doing : List String)
  deriving DecidableEq, Repr

namespace Failure

def message : Failure → String
  | .invalid reason => reason
  | .domainTaken domain => "domain " ++ domain ++ " is already in use"
  | .unknown id => "notebook " ++ id ++ " not found"
  | .alreadyRunning id => "notebook " ++ id ++ " already running"
  | .notRunning id => "notebook " ++ id ++ " not running"
  | .launch id cause => "failed to start notebook " ++ id ++ ": " ++ cause
  | .kill pid cause => "failed to kill process " ++ toString pid ++ ": " ++ cause
  | .portsExhausted range => "no free notebook ports left in range " ++ range.toText
  | .storage doing => "storage error: " ++ ": ".intercalate doing

def httpStatus : Failure → Nat
  | .invalid _ => 400
  | .domainTaken _ => 409
  | .unknown _ => 404
  | .alreadyRunning _ => 409
  | .notRunning _ => 409
  | .launch _ _ => 500
  | .kill _ _ => 500
  | .portsExhausted _ => 500
  | .storage _ => 500

end Failure

end NotebookHost
