import NotebookHost.Proofs.Supervisor.Accounts
import NotebookHost.Proofs.Supervisor.Conduct
import NotebookHost.Proofs.Supervisor.Signal

namespace NotebookHost

namespace Handle

end Handle

namespace Supervisor

open Handle

structure Fades (s s' : Supervisor) : Prop where
  signal : s'.signal = .given
  launches : s'.launches = s.launches
  alive : s'.alive.Sublist s.alive

section Fading

variable {m : Machine} {s s' s'' : Supervisor} {h : Handle}

theorem Fades.refl (hgiven : s.signal = .given) : Fades s s := ⟨hgiven, rfl, .refl _⟩

theorem Fades.trans (h : Fades s s') (h' : Fades s' s'') : Fades s s'' :=
  ⟨h'.signal, h'.launches.trans h.launches, h'.alive.trans h.alive⟩

end Fading

section Reactions

variable {s : Supervisor} {id : String}

end Reactions

section Refusals

variable {m : Machine} {s : Supervisor} {id : String} {h : Handle}

end Refusals

section Halting

variable {m : Machine} {s : Supervisor} {id : String} {h : Handle}

end Halting

section Fresh

variable {settings : LaunchSettings} {ports : PortRange} {steps : List (Machine × Step)}

end Fresh

end Supervisor

end NotebookHost
