import NotebookHost.Supervisor.Basic

/-!
One handle with everything that happens to it at the same time. An operation has the handle to
itself, but it touches the state in short sections, and the monitors of the handle's processes may
act between any two of them. A monitor waits for the first of three things: the end of its process,
a request to kill it, and the signal. Once it has turned to one of them, requests no longer reach
it, and the caller of one takes its process for gone.
-/

namespace NotebookHost

inductive Vital where
  | alive
  | ended (ending : Ending)
  | killed
  deriving DecidableEq, Repr

inductive KillCall where
  | idle
  | asked
  | answered (error : Option String)
  | dropped
  deriving DecidableEq, Repr

inductive Duty where
  | watching
  | reporting (ending : Ending)
  | killing
  | quelling
  | clearing
  | released
  deriving DecidableEq, Repr

structure Monitor where
  generation : Nat
  vital : Vital := .alive
  call : KillCall := .idle
  duty : Duty := .watching
  deriving DecidableEq, Repr

namespace Monitor

def turnTo (duty : Duty) (m : Monitor) : Monitor :=
  { m with duty, call := if m.call = .asked then .dropped else m.call }

def exit (ending : Ending) (m : Monitor) : Monitor :=
  if m.vital = .alive then { m with vital := .ended ending } else m

def bury (m : Monitor) : Monitor := if m.vital = .alive then { m with vital := .killed } else m

def seeEnd (m : Monitor) : Monitor :=
  match m.duty, m.vital with
  | .watching, .ended ending => m.turnTo (.reporting ending)
  | _, _ => m

def accept (m : Monitor) : Monitor :=
  if m.duty = .watching ∧ m.call = .asked then { m with duty := .killing } else m

def kill (error : Option String) (m : Monitor) : Monitor :=
  if m.duty = .killing then
    let m := if error.isNone then m.bury else m
    { m with duty := .released, call := .answered error }
  else m

def seeSignal (m : Monitor) : Monitor := if m.duty = .watching then m.turnTo .quelling else m

def quell (m : Monitor) : Monitor :=
  if m.duty = .quelling then { m.bury with duty := .clearing } else m

def ask (m : Monitor) : Monitor := { m with call := .asked }

end Monitor

inductive Goal where
  | rest
  | launch
  deriving DecidableEq, Repr

inductive Stage where
  | adopt (n : Notebook) (startIdle : Bool)
  | take (goal : Goal)
  | ask (p : Process) (goal : Goal)
  | await (p : Process) (goal : Goal)
  | settle (p : Process) (error : Option String) (goal : Goal)
  | blame (e : Failure)
  | check
  | guard (n : Notebook)
  | spawn (n : Notebook)
  | refuse (cause : String)
  | record (n : Notebook) (pid : Nat)
  deriving DecidableEq

inductive Operation where
  | start
  | stop
  | update (n : Notebook)
  | reload (n : Notebook)
  deriving DecidableEq

def Operation.firstStage : Operation → Stage
  | .start => .check
  | .stop => .take .rest
  | .update n => .adopt n false
  | .reload n => .adopt n true

structure Cell where
  handle : Handle
  monitors : List Monitor := []
  signal : Signal := .waiting
  stage : Option Stage := none
  results : List (Except Failure Unit) := []

namespace Cell

def monitor? (c : Cell) (generation : Nat) : Option Monitor :=
  c.monitors.find? (·.generation == generation)

def call? (c : Cell) (generation : Nat) : Option KillCall := (c.monitor? generation).map (·.call)

def duty? (c : Cell) (generation : Nat) : Option Duty := (c.monitor? generation).map (·.duty)

def onMonitor (generation : Nat) (act : Monitor → Monitor) (c : Cell) : Cell :=
  { c with monitors := c.monitors.map fun m => if m.generation = generation then act m else m }

def onHandle (act : Handle → Handle) (c : Cell) : Cell := { c with handle := act c.handle }

def goTo (stage : Stage) (c : Cell) : Cell := { c with stage := some stage }

def leave (result : Except Failure Unit) (c : Cell) : Cell :=
  { c with stage := none, results := c.results ++ [result] }

def stopFailed (goal : Goal) (e : Failure) (c : Cell) : Cell :=
  match goal with
  | .rest => c.leave (.error e)
  | .launch => c.goTo (.blame e)

def isWatched (generation : Nat) (c : Cell) : Bool :=
  (c.monitor? generation).any (·.duty == .watching)

def adopt (n : Notebook) (startIdle : Bool) (c : Cell) : Cell :=
  let next := c.onHandle (·.adopt n)
  if c.handle.process.isSome then next.goTo (.take .launch)
  else if startIdle then next.goTo .check
  else next.leave (.ok ())

def take (goal : Goal) (c : Cell) : Cell :=
  match c.handle.process with
  | none => c.stopFailed goal (.notRunning c.handle.id)
  | some p => (c.onHandle .release).goTo (.ask p goal)

def ask (p : Process) (goal : Goal) (c : Cell) : Cell :=
  if c.isWatched p.generation then (c.onMonitor p.generation .ask).goTo (.await p goal)
  else c.goTo (.settle p none goal)

def await (p : Process) (goal : Goal) (c : Cell) : Cell :=
  match c.call? p.generation with
  | some (.answered error) => c.goTo (.settle p error goal)
  | some .dropped => c.goTo (.settle p none goal)
  | _ => c

def settle (p : Process) (error : Option String) (goal : Goal) (c : Cell) : Cell :=
  match error, goal with
  | none, .rest => (c.onHandle (·.settle .stopped)).leave (.ok ())
  | none, .launch => (c.onHandle (·.settle .stopped)).goTo .check
  | some cause, goal => (c.onHandle (·.settle .error)).stopFailed goal (.kill p.pid cause)

def check (c : Cell) : Cell :=
  if c.handle.process.isSome then c.leave (.error (.alreadyRunning c.handle.id))
  else c.goTo (.guard c.handle.notebook)

def guard (n : Notebook) (c : Cell) : Cell :=
  if c.signal = .given then c.goTo (.refuse "runner is shutting down") else c.goTo (.spawn n)

def spawn (settings : LaunchSettings) (m : Machine) (n : Notebook) (c : Cell) : Cell :=
  match m.start settings.program (settings.commandLine n c.handle.port) with
  | .error cause => c.goTo (.refuse cause)
  | .ok pid => c.goTo (.record n pid)

def refuse (cause : String) (c : Cell) : Cell :=
  (c.onHandle (·.settle .error)).leave (.error (.launch c.handle.id cause))

def record (settings : LaunchSettings) (n : Notebook) (pid : Nat) (c : Cell) : Cell :=
  let h := c.handle
  let p : Process :=
    { pid
      id := h.id
      port := h.port
      generation := h.generation + 1
      args := settings.commandLine n h.port }
  let watched := c.monitors ++ [({ generation := p.generation } : Monitor)]
  ({ c with handle := h.launched p, monitors := watched } : Cell).leave (.ok ())

def advance (settings : LaunchSettings) (m : Machine) (c : Cell) : Cell :=
  match c.stage with
  | none => c
  | some (.adopt n startIdle) => c.adopt n startIdle
  | some (.take goal) => c.take goal
  | some (.ask p goal) => c.ask p goal
  | some (.await p goal) => c.await p goal
  | some (.settle p error goal) => c.settle p error goal
  | some (.blame e) => (c.onHandle (·.settle .error)).leave (.error e)
  | some .check => c.check
  | some (.guard n) => c.guard n
  | some (.spawn n) => c.spawn settings m n
  | some (.refuse cause) => c.refuse cause
  | some (.record n pid) => c.record settings n pid

def undertake (op : Operation) (c : Cell) : Cell :=
  if c.stage.isNone then c.goTo op.firstStage else c

def report (generation : Nat) (c : Cell) : Cell :=
  match c.duty? generation with
  | some (.reporting ending) =>
    (c.onHandle (·.exited generation ending)).onMonitor generation (.turnTo .released)
  | some .clearing =>
    (c.onHandle (·.signalled generation)).onMonitor generation (.turnTo .released)
  | _ => c

/-- What can happen next. What is not possible changes nothing. -/
inductive Move where
  | undertake (op : Operation)
  | advance (m : Machine)
  | giveSignal
  | exit (generation : Nat) (ending : Ending)
  | seeEnd (generation : Nat)
  | accept (generation : Nat)
  | kill (generation : Nat) (error : Option String)
  | seeSignal (generation : Nat)
  | quell (generation : Nat)
  | report (generation : Nat)

def step (settings : LaunchSettings) (c : Cell) : Move → Cell
  | .undertake op => c.undertake op
  | .advance m => c.advance settings m
  | .giveSignal => { c with signal := c.signal.give }
  | .exit g ending => c.onMonitor g (.exit ending)
  | .seeEnd g => c.onMonitor g .seeEnd
  | .accept g => c.onMonitor g .accept
  | .kill g error => c.onMonitor g (.kill error)
  | .seeSignal g => if c.signal = .given then c.onMonitor g .seeSignal else c
  | .quell g => c.onMonitor g .quell
  | .report g => c.report g

def run (settings : LaunchSettings) (c : Cell) (moves : List Move) : Cell :=
  moves.foldl (step settings) c

end Cell

end NotebookHost
