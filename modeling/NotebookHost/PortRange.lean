import NotebookHost.Text.Blank
import NotebookHost.Text.Decimal
import NotebookHost.Text.Split

namespace NotebookHost

open Text

abbrev Port := UInt16

def Port.toText (p : Port) : String := String.ofList (digitsOf p.toNat)

def Port.read (s : List Char) : Except NumeralError Port :=
  (readNat 65535 (trim s)).map UInt16.ofNat

structure PortRange where
  first : Port
  last : Port
  deriving DecidableEq, Repr

namespace PortRange

inductive SyntaxError where
  | noHyphen
  | badFirst (cause : NumeralError)
  | badLast (cause : NumeralError)
  deriving DecidableEq, Repr

def SyntaxError.message : SyntaxError → String
  | .noHyphen => "port range must be in format 'start-end'"
  | .badFirst e => "invalid start port: " ++ e.message
  | .badLast e => "invalid end port: " ++ e.message

def contains (r : PortRange) (p : Port) : Bool := r.first ≤ p && p ≤ r.last

def toText (r : PortRange) : String := r.first.toText ++ "-" ++ r.last.toText

def ofText (s : String) : Except SyntaxError PortRange :=
  match splitOnce '-' s.toList with
  | none => .error .noHyphen
  | some (before, after) =>
    match Port.read before with
    | .error e => .error (.badFirst e)
    | .ok first =>
      match Port.read after with
      | .error e => .error (.badLast e)
      | .ok last => .ok ⟨first, last⟩

end PortRange

end NotebookHost
