import NotebookHost.Catalogue.Basic
import NotebookHost.Routing
import NotebookHost.Supervisor.Basic

namespace NotebookHost

structure Hub where
  catalogue : Catalogue
  supervisor : Supervisor
  pending : List Event := []

namespace Hub

def ofStore (o : Outage) (store : Store) (supervisor : Supervisor) : Except Failure Hub :=
  match Catalogue.ofStore o store with
  | .error e => .error e
  | .ok c => .ok { catalogue := c, supervisor, pending := c.announced }

def setCatalogue (hub : Hub) (c : Catalogue) : Hub :=
  { hub with
    catalogue := c
    pending := hub.pending ++ c.announced.drop hub.catalogue.announced.length }

def onCatalogue {α : Type} (op : Catalogue → Catalogue × α) (hub : Hub) : Hub × α :=
  let (c, a) := op hub.catalogue
  (hub.setCatalogue c, a)

def onSupervisor {α : Type} (op : Supervisor → Supervisor × α) (hub : Hub) : Hub × α :=
  let (s, a) := op hub.supervisor
  ({ hub with supervisor := s }, a)

def deliver (m : Machine) (id : String) (hub : Hub) : Hub :=
  match hub.pending.find? (·.notebook.id == id) with
  | none => hub
  | some e =>
    { hub with
      supervisor := hub.supervisor.follow m e
      pending := hub.pending.eraseP (·.notebook.id == id) }

def deliverAll (m : Machine) (hub : Hub) : Hub :=
  { hub with
    supervisor := hub.pending.foldl (fun s e => s.follow m e) hub.supervisor
    pending := [] }

def directory (o : Outage) (hub : Hub) : Directory :=
  { owner? := hub.catalogue.findByDomain? o
    port? := hub.supervisor.port?
    status := hub.supervisor.status }

def resolve (o : Outage) (hub : Hub) (host : String) : Except RouteError Backend :=
  (hub.directory o).resolve host

end Hub

end NotebookHost
