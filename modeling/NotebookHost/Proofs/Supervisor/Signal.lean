import NotebookHost.Supervisor.Sections
import Mathlib.Data.Nat.Notation
import Mathlib.Tactic.SplitIfs

namespace NotebookHost

namespace Monitor

variable {m : Monitor}

theorem bury_vital (m : Monitor) : m.bury.vital ≠ .alive := by
  unfold bury
  split_ifs with h
  · simp
  · exact h

end Monitor

def Stage.isPastGuard : Stage → Bool
  | .spawn _ | .record _ _ => true
  | _ => false

namespace Cell

def isPastGuard (c : Cell) : Bool := c.stage.any Stage.isPastGuard

def IsQuiet (c : Cell) : Prop := c.isPastGuard = false ∧ ∀ m ∈ c.monitors, m.vital ≠ .alive

structure Fades (c d : Cell) : Prop where
  signal : d.signal = .given
  launched : d.monitors.length + d.isPastGuard.toNat ≤ c.monitors.length + c.isPastGuard.toNat
  quiet : c.IsQuiet → d.IsQuiet

variable {settings : LaunchSettings} {c d e : Cell}

theorem Fades.trans (h : c.Fades d) (h' : d.Fades e) : c.Fades e :=
  ⟨h'.signal, Nat.le_trans h'.launched h.launched, fun hquiet => h'.quiet (h.quiet hquiet)⟩

end Cell

end NotebookHost
