import NotebookHost.Delivery.Basic

namespace NotebookHost

structure Subscribers where
  deliveries : List Delivery

namespace Subscribers

def ofCount (count : Nat) : Subscribers := ⟨List.replicate count {}⟩

inductive Step where
  | publish (e : Event)
  | dispatch (k : Nat)
  | work (k i : Nat)

def step (panics : Nat → Event → Bool) (s : Subscribers) : Step → Subscribers
  | .publish e => ⟨s.deliveries.map (·.publish e)⟩
  | .dispatch k => ⟨s.deliveries.modify k .dispatch⟩
  | .work k i => ⟨s.deliveries.modify k (·.work (panics k) i)⟩

def run (panics : Nat → Event → Bool) (s : Subscribers) (steps : List Step) : Subscribers :=
  steps.foldl (step panics) s

end Subscribers

end NotebookHost
