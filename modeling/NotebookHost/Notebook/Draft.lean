import NotebookHost.Hostname
import NotebookHost.Notebook.Basic

namespace NotebookHost

open Text

structure Draft where
  rawName : Option String := none
  rawPath : Option String := none
  rawDomain : Option String := none
  showCode : Option Bool := none
  watch : Option Bool := none
  deriving DecidableEq, Repr

namespace Draft

def given (value : Option String) : Option String := value.filter (!·.isEmpty)

def name (d : Draft) : Option String := given d.rawName

def path (d : Draft) : Option String := given d.rawPath

def domain (d : Draft) : Option String := given d.rawDomain

inductive Fault where
  | nameTooLong
  | pathClimbs
  | domainMalformed
  deriving DecidableEq, Repr

def maxName : Nat := 100

def Fault.message : Fault → String
  | .nameTooLong => "name: must be at most " ++ toString maxName ++ " characters"
  | .pathClimbs => "path: must not contain '..'"
  | .domainMalformed => "domain: must be a valid hostname"

def faults (d : Draft) : List Fault :=
  (if d.name.any (maxName < ·.length) then [.nameTooLong] else []) ++
    (if d.path.any (occursIn ['.', '.'] ·.toList) then [.pathClimbs] else []) ++
    (if d.domain.any (!Hostname.isValid ·) then [.domainMalformed] else [])

def refusal? (d : Draft) : Option String :=
  match d.faults with
  | [] => none
  | fs => some ("validation failed: " ++ "; ".intercalate (fs.map Fault.message))

def apply (d : Draft) (n : Notebook) : Notebook :=
  { n with
    name := d.name.getD n.name
    path := d.path.getD n.path
    domain := (d.domain.map Hostname.canonical).getD n.domain
    showCode := d.showCode.getD n.showCode
    watch := d.watch.getD n.watch }

end Draft

end NotebookHost
