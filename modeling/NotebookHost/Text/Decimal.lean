namespace NotebookHost.Text

inductive NumeralError where
  | empty
  | badDigit
  | tooLarge
  deriving DecidableEq, Repr

def NumeralError.message : NumeralError → String
  | .empty => "cannot parse integer from empty string"
  | .badDigit => "invalid digit found in string"
  | .tooLarge => "number too large to fit in target type"

def isDigit (c : Char) : Bool := '0' ≤ c && c ≤ '9'

def digitValue (c : Char) : Nat := c.toNat - 48

def digitsValue (cs : List Char) : Nat := cs.foldl (fun n c => 10 * n + digitValue c) 0

/-- A number at most `bound`: an optional `+`, then digits, the first offending digit winning over
the size. -/
def readNat (bound : Nat) (s : List Char) : Except NumeralError Nat :=
  let digits := match s with
    | '+' :: r => r
    | _ => s
  if s.isEmpty then .error .empty
  else if digits.isEmpty then .error .badDigit
  else
    let valid := digits.takeWhile isDigit
    if bound < digitsValue valid then .error .tooLarge
    else if digits.all isDigit then .ok (digitsValue digits)
    else .error .badDigit

def digitsOf (n : Nat) : List Char := Nat.toDigits 10 n

def padded (width n : Nat) : List Char :=
  let ds := digitsOf n
  List.replicate (width - ds.length) '0' ++ ds

end NotebookHost.Text
