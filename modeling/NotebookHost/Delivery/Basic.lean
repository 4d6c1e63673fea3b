import NotebookHost.Notebook.Basic
import Std.Data.TreeMap

/-!
How announced changes reach one subscriber. A dispatcher moves them from an inbox to one worker for
each notebook; a worker calls the subscriber with one change after the other. A call that panics
ends its worker, and what the worker had not got to is gone with it; the dispatcher notices a dead
worker when it has the next change for it, and starts another one.
-/

namespace NotebookHost

structure Worker where
  queue : List Event := []
  dead : Bool := false
  deriving DecidableEq

structure Delivery where
  inbox : List Event := []
  workers : List Worker := []
  assigned : Std.TreeMap String Nat := ∅
  taken : List Event := []

namespace Delivery

def publish (e : Event) (d : Delivery) : Delivery := { d with inbox := d.inbox ++ [e] }

def isDead (i : Nat) (d : Delivery) : Bool := (d.workers[i]?).all (·.dead)

def employ (e : Event) (d : Delivery) : Delivery :=
  { d with
    workers := d.workers ++ [{ queue := [e] }]
    assigned := d.assigned.insert e.notebook.id d.workers.length }

def enqueue (i : Nat) (e : Event) (d : Delivery) : Delivery :=
  { d with workers := d.workers.modify i fun w => { w with queue := w.queue ++ [e] } }

def assign (e : Event) (d : Delivery) : Delivery :=
  match d.assigned[e.notebook.id]? with
  | none => d.employ e
  | some i => if d.isDead i then d.employ e else d.enqueue i e

def dismiss (e : Event) (d : Delivery) : Delivery :=
  if e.change = .deleted then { d with assigned := d.assigned.erase e.notebook.id } else d

def dispatch (d : Delivery) : Delivery :=
  match d.inbox with
  | [] => d
  | e :: rest => (({ d with inbox := rest }).assign e).dismiss e

def work (panics : Event → Bool) (i : Nat) (d : Delivery) : Delivery :=
  match d.workers[i]? with
  | none => d
  | some w =>
    match w.queue with
    | [] => d
    | e :: rest =>
      if panics e then { d with workers := d.workers.set i ⟨[], true⟩ }
      else { d with workers := d.workers.set i ⟨rest, w.dead⟩, taken := d.taken ++ [e] }

inductive Step where
  | publish (e : Event)
  | dispatch
  | work (i : Nat)

def step (panics : Event → Bool) (d : Delivery) : Step → Delivery
  | .publish e => d.publish e
  | .dispatch => d.dispatch
  | .work i => d.work panics i

def run (panics : Event → Bool) (d : Delivery) (steps : List Step) : Delivery :=
  steps.foldl (step panics) d

def flush (panics : Event → Bool) (d : Delivery) : Delivery :=
  let d := run panics d (d.inbox.map fun _ => .dispatch)
  let turns := d.workers.zipIdx.flatMap fun (w, i) => w.queue.map fun _ => Step.work i
  run panics d turns

end Delivery

end NotebookHost
