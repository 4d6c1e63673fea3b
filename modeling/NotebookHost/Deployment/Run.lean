import NotebookHost.Management
import NotebookHost.Supervisor.Run

namespace NotebookHost.Hub

inductive Step where
  | request (method path : String) (body : Except String (List UInt8))
  | add (d : Draft)
  | update (id : String) (d : Draft)
  | delete (id : String)
  | deliver (id : String)
  | reload (id : String)
  | supervise (step : Supervisor.Step)

def perform (w : Management.Circumstances) (step : Step) (hub : Hub) : Hub :=
  match step with
  | .request method path body => (Management.answer w method path body hub).1
  | .add d => (hub.onCatalogue (Catalogue.add w.outage w.birth d)).1
  | .update id d => (hub.onCatalogue (Catalogue.update w.outage id d)).1
  | .delete id => (hub.onCatalogue (Catalogue.delete w.outage id)).1
  | .deliver id => hub.deliver w.machine id
  | .reload id => (Management.reload w id hub).1
  | .supervise step => (hub.onSupervisor (Supervisor.perform w.machine step)).1

def run (hub : Hub) (steps : List (Management.Circumstances × Step)) : Hub :=
  steps.foldl (fun hub step => hub.perform step.1 step.2) hub

end NotebookHost.Hub
