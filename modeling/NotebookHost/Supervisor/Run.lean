import NotebookHost.Supervisor.Basic

namespace NotebookHost.Supervisor

inductive Step where
  | follow (e : Event)
  | start (id : String)
  | stop (id : String)
  | reload (n : Notebook)
  | shutdown
  | exit (id : String) (ending : Ending)
  | giveSignal
  | loseSignal
  | heedSignal (id : String)

def processOf? (s : Supervisor) (id : String) : Option Process := s.alive.find? (·.id == id)

def onProcess (act : Process → Supervisor → Supervisor) (id : String) (s : Supervisor) : Supervisor :=
  match s.processOf? id with
  | none => s
  | some p => act p s

def perform (m : Machine) (step : Step) (s : Supervisor) :
    Supervisor × Option (Except Failure Unit) :=
  match step with
  | .follow e => (s.follow m e, none)
  | .start id =>
    let (s, r) := s.start m id
    (s, some r)
  | .stop id =>
    let (s, r) := s.stop m id
    (s, some r)
  | .reload n =>
    let (s, r) := s.reload m n
    (s, some r)
  | .shutdown => (s.shutdown m, none)
  | .exit id ending => (s.onProcess (exit · ending) id, none)
  | .giveSignal => (s.giveSignal, none)
  | .loseSignal => (s.loseSignal, none)
  | .heedSignal id => (s.onProcess heedSignal id, none)

def run (s : Supervisor) (steps : List (Machine × Step)) : Supervisor :=
  steps.foldl (fun s step => (s.perform step.1 step.2).1) s

end NotebookHost.Supervisor
