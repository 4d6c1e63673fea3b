import NotebookHost.Failure
import NotebookHost.Settings.Basic
import NotebookHost.Supervisor.Handle
import Std.Data.TreeMap

namespace NotebookHost

inductive Signal where
  | waiting
  | given
  | lost
  deriving DecidableEq, Repr

def Signal.give : Signal → Signal
  | .lost => .lost
  | _ => .given

def Signal.lose : Signal → Signal
  | .given => .given
  | _ => .lost

structure Machine where
  launch : Except String Nat := .ok 0
  killError : Option String := none

def Machine.start (m : Machine) (program : String) (args : List String) : Except String Nat :=
  if (program :: args).any (·.toList.contains '\x00') then .error "nul byte found in provided data"
  else m.launch

def LaunchSettings.commandLine (s : LaunchSettings) (n : Notebook) (port : Port) : List String :=
  s.args ++ [n.path, "--port", port.toText, "--host", s.host, "--headless", "--no-token"] ++
    (if n.watch then ["--watch"] else []) ++ (if n.showCode then ["--include-code"] else [])

structure Supervisor where
  settings : LaunchSettings
  ports : PortRange
  counter : UInt32
  handles : Std.TreeMap String Handle := ∅
  signal : Signal := .waiting
  alive : List Process := []
  launches : List Process := []

namespace Supervisor

def fresh (settings : LaunchSettings) (ports : PortRange) : Supervisor :=
  { settings, ports, counter := ports.first.toUInt32 }

def find (s : Supervisor) (id : String) : Except Failure Handle :=
  match s.handles[id]? with
  | some h => .ok h
  | none => .error (.unknown id)

def setHandle (s : Supervisor) (h : Handle) : Supervisor :=
  { s with handles := s.handles.insert h.id h }

def portOf? (ports : PortRange) (count : UInt32) : Option Port :=
  if count.toNat ≤ 65535 ∧ count.toUInt16 ≤ ports.last then some count.toUInt16 else none

def allocate (s : Supervisor) : Supervisor × Option Port :=
  let count := s.counter + 1
  ({ s with counter := count }, portOf? s.ports count)

def launchLocked (m : Machine) (h : Handle) (s : Supervisor) :
    Supervisor × Handle × Except Failure Unit :=
  if h.process.isSome then (s, h, .error (.alreadyRunning h.id))
  else if s.signal = .given then
    (s, h.settle .error, .error (.launch h.id "runner is shutting down"))
  else
    let args := s.settings.commandLine h.notebook h.port
    match m.start s.settings.program args with
    | .error cause => (s, h.settle .error, .error (.launch h.id cause))
    | .ok pid =>
      let p : Process := { pid, id := h.id, port := h.port, generation := h.generation + 1, args }
      ({ s with alive := s.alive ++ [p], launches := s.launches ++ [p] }, h.launched p, .ok ())

def bury (p : Process) (s : Supervisor) : Supervisor :=
  { s with alive := s.alive.filter (· != p) }

def stopLocked (m : Machine) (h : Handle) (s : Supervisor) :
    Supervisor × Handle × Except Failure Unit :=
  match h.process with
  | none => (s, h, .error (.notRunning h.id))
  | some p =>
    match m.killError with
    | none => (s.bury p, h.release.settle .stopped, .ok ())
    | some cause => (s, h.release.settle .error, .error (.kill p.pid cause))

/-- Gives a handle a new record and a live process a successor; an idle handle gets a process only
if `startIdle` says so. -/
def relaunchLocked (m : Machine) (n : Notebook) (startIdle : Bool) (h : Handle) (s : Supervisor) :
    Supervisor × Handle × Except Failure Unit :=
  let adopted := h.adopt n
  if h.process.isSome then
    match stopLocked m adopted s with
    | (s, h, .error e) => (s, h.settle .error, .error e)
    | (s, h, .ok ()) => launchLocked m h s
  else if startIdle then launchLocked m adopted s
  else (s, adopted, .ok ())

def keep {α : Type} : Supervisor × Handle × α → Supervisor × α
  | (s, h, r) => (s.setHandle h, r)

def start (m : Machine) (id : String) (s : Supervisor) : Supervisor × Except Failure Unit :=
  match s.find id with
  | .error e => (s, .error e)
  | .ok h => keep (launchLocked m h s)

def stop (m : Machine) (id : String) (s : Supervisor) : Supervisor × Except Failure Unit :=
  match s.find id with
  | .error e => (s, .error e)
  | .ok h => keep (stopLocked m h s)

def reload (m : Machine) (n : Notebook) (s : Supervisor) : Supervisor × Except Failure Unit :=
  match s.find n.id with
  | .error e => (s, .error e)
  | .ok h => keep (relaunchLocked m n true h s)

/-- Takes over a record that was added or updated. A notebook that is not known yet gets a port and
is started; without a port left it stays unknown. -/
def takeOver (m : Machine) (n : Notebook) (s : Supervisor) : Supervisor :=
  match s.handles[n.id]? with
  | some h => (keep (relaunchLocked m n false h s)).1
  | none =>
    match s.allocate with
    | (s, none) => s
    | (s, some port) => ((s.setHandle (.ofNotebook n port)).start m n.id).1

def remove (m : Machine) (id : String) (s : Supervisor) : Supervisor :=
  match s.handles[id]? with
  | none => s
  | some h => (stopLocked m h { s with handles := s.handles.erase id }).1

def follow (m : Machine) (e : Event) (s : Supervisor) : Supervisor :=
  match e.change with
  | .added | .updated => s.takeOver m e.notebook
  | .deleted => s.remove m e.notebook.id

def status (s : Supervisor) (id : String) : Except Failure Status :=
  match s.find id with
  | .error e => .error e
  | .ok h => .ok h.status

def port? (s : Supervisor) (id : String) : Option Port := (s.handles[id]?).map (·.port)

def shutdown (m : Machine) (s : Supervisor) : Supervisor :=
  s.handles.keys.foldl (fun s id => (s.stop m id).1) s

def react (p : Process) (act : Handle → Handle) (s : Supervisor) : Supervisor :=
  match s.handles[p.id]? with
  | none => s
  | some h => if h.port = p.port then s.setHandle (act h) else s

def exit (p : Process) (ending : Ending) (s : Supervisor) : Supervisor :=
  if s.alive.contains p then (s.bury p).react p (·.exited p.generation ending) else s

def giveSignal (s : Supervisor) : Supervisor := { s with signal := s.signal.give }

def loseSignal (s : Supervisor) : Supervisor := { s with signal := s.signal.lose }

-- A process that could not be killed has lost its monitor. That it may heed the signal here as well adds runs and takes
-- none away.
def heedSignal (p : Process) (s : Supervisor) : Supervisor :=
  if s.signal = .given ∧ p ∈ s.alive then (s.bury p).react p (·.signalled p.generation) else s

def heedSignalAll (s : Supervisor) : Supervisor := s.alive.foldl (fun s p => s.heedSignal p) s

end Supervisor

end NotebookHost
