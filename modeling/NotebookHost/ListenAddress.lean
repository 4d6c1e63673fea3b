import NotebookHost.Text.Decimal
import NotebookHost.Text.Hex

namespace NotebookHost

open Text

inductive ListenAddress where
  | v4 (octets : List Nat) (port : Nat)
  | v6 (groups : List Nat) (scope : Nat) (port : Nat)
  deriving DecidableEq, Repr

namespace ListenAddress

def readBounded (bound : Nat) (s : List Char) : Option (Nat × List Char) :=
  let ds := s.takeWhile isDigit
  if ds.isEmpty || bound < digitsValue ds then none else some (digitsValue ds, s.drop ds.length)

def readOctet (s : List Char) : Option (Nat × List Char) :=
  let ds := s.takeWhile isDigit
  if 3 < ds.length || (1 < ds.length && ds.head? == some '0') then none else readBounded 255 s

def readChar (c : Char) : List Char → Option (List Char)
  | d :: r => if d = c then some r else none
  | [] => none

def readOctets : Nat → List Char → Option (List Nat × List Char)
  | 0, s => some ([], s)
  | 1, s => do
    let (n, s) ← readOctet s
    some ([n], s)
  | count + 2, s => do
    let (n, s) ← readOctet s
    let s ← readChar '.' s
    let (ns, s) ← readOctets (count + 1) s
    some (n :: ns, s)

def readGroup (s : List Char) : Option (Nat × List Char) :=
  let ds := s.takeWhile fun c => (hexValue? c).isSome
  if ds.isEmpty || 4 < ds.length then none
  else (hexNumber? ds).map fun n => (n, s.drop ds.length)

def afterColon (first : Bool) (s : List Char) : Option (List Char) :=
  if first then some s else readChar ':' s

/-- Groups as far as they go, at most `count`; four octets may stand for the last two. The flag says
whether they do. -/
def readGroups : Nat → Bool → List Char → List Nat × Bool × List Char
  | 0, _, s => ([], false, s)
  | count + 1, first, s =>
    let octets := if count = 0 then none else (afterColon first s).bind (readOctets 4)
    match octets with
    | some ([a, b, c, d], r) => ([256 * a + b, 256 * c + d], true, r)
    | _ =>
      match (afterColon first s).bind readGroup with
      | none => ([], false, s)
      | some (n, r) =>
        let (ns, dotted, r) := readGroups count false r
        (n :: ns, dotted, r)

def groupCount : Nat := 8

def readV6 (s : List Char) : Option (List Nat × List Char) :=
  let (head, dotted, r) := readGroups groupCount true s
  if head.length = groupCount then some (head, r)
  else if dotted then none
  else do
    let r ← readChar ':' r
    let r ← readChar ':' r
    let (tail, _, r) := readGroups (groupCount - 1 - head.length) true r
    some (head ++ List.replicate (groupCount - head.length - tail.length) 0 ++ tail, r)

def maxScope : Nat := 4294967295

def readScope : List Char → Option (Nat × List Char)
  | '%' :: r => readBounded maxScope r
  | s => some (0, s)

def readPort (s : List Char) : Option Nat := do
  let s ← readChar ':' s
  let (port, s) ← readBounded 65535 s
  if s.isEmpty then some port else none

def ofChars? (s : List Char) : Option ListenAddress :=
  match s with
  | '[' :: r => do
    let (groups, r) ← readV6 r
    let (scope, r) ← readScope r
    let r ← readChar ']' r
    let port ← readPort r
    some (.v6 groups scope port)
  | _ => do
    let (octets, r) ← readOctets 4 s
    let port ← readPort r
    some (.v4 octets port)

def ofText? (s : String) : Option ListenAddress := ofChars? s.toList

end ListenAddress

end NotebookHost
