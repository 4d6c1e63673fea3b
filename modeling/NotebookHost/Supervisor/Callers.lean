import NotebookHost.Supervisor.Sections

/-!
Several callers at one notebook. A caller looks up the handle first and gets hold of it later; in
between, the handle may have been removed, and the caller does not notice.
-/

namespace NotebookHost

inductive Errand where
  | perform (op : Operation)
  | remove
  deriving DecidableEq

def Errand.operation : Errand → Operation
  | .perform op => op
  | .remove => .stop

structure Caller where
  errand : Errand
  found : Option Nat := none
  deriving DecidableEq

structure Site where
  cells : List Cell
  current : Option Nat
  callers : List Caller := []

namespace Site

def dismiss (k : Nat) (s : Site) : Site := { s with callers := s.callers.eraseIdx k }

def lookUp (k : Nat) (s : Site) : Site :=
  match s.callers[k]?, s.current with
  | some ⟨errand, none⟩, some i =>
    { s with
      callers := s.callers.set k ⟨errand, some i⟩
      current := if errand = .remove then none else s.current }
  | some ⟨_, none⟩, none => s.dismiss k
  | _, _ => s

def enter (k : Nat) (s : Site) : Site :=
  match s.callers[k]? with
  | some ⟨errand, some i⟩ =>
    if (s.cells[i]?).any (·.stage.isNone) then
      ({ s with cells := s.cells.modify i (·.undertake errand.operation) } : Site).dismiss k
    else s
  | _ => s

inductive Move where
  | arrive (errand : Errand)
  | lookUp (k : Nat)
  | enter (k : Nat)
  | inside (i : Nat) (move : Cell.Move)

def isUndertaking : Cell.Move → Bool
  | .undertake _ => true
  | _ => false

def step (settings : LaunchSettings) (s : Site) : Move → Site
  | .arrive errand => { s with callers := s.callers ++ [⟨errand, none⟩] }
  | .lookUp k => s.lookUp k
  | .enter k => s.enter k
  | .inside i move =>
    if isUndertaking move then s else { s with cells := s.cells.modify i (Cell.step settings · move) }

def run (settings : LaunchSettings) (s : Site) (moves : List Move) : Site :=
  moves.foldl (step settings) s

def isQuiet (s : Site) : Bool := s.callers.isEmpty && s.cells.all (·.stage.isNone)

end Site

end NotebookHost
