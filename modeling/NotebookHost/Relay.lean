/-!
The relay of a web socket session: two sockets, and what is done with everything that arrives on
them, in the order in which it arrives. Texts and binary frames go to the other side. The first
close, fault or end of a stream, and the first frame that cannot be sent, end the session: the side
that is still there gets a normal closure, and both sockets are closed.
-/

namespace NotebookHost

inductive Frame where
  | text (s : String)
  | binary (bytes : List UInt8)
  | ping (bytes : List UInt8)
  | pong (bytes : List UInt8)
  | close (reason : Option (Nat × String))
  deriving DecidableEq, Repr

def Frame.isData : Frame → Bool
  | .text _ => true
  | .binary _ => true
  | _ => false

def Frame.normalClosure : Frame := .close (some (1000, ""))

inductive Side where
  | client
  | backend
  deriving DecidableEq, Repr

def Side.other : Side → Side
  | .client => .backend
  | .backend => .client

inductive Arrival where
  | frame (f : Frame)
  | fault
  | ending
  deriving DecidableEq, Repr

structure Occurrence where
  source : Side
  arrival : Arrival
  sendable : Bool := true
  deriving DecidableEq, Repr

structure Relay where
  sent : Side → List Frame := fun _ => []
  ended : Option Side := none
  closed : Side → Bool := fun _ => false

namespace Relay

def send (receiver : Side) (f : Frame) (r : Relay) : Relay :=
  { r with sent := fun s => if s = receiver then r.sent s ++ [f] else r.sent s }

-- The side that has ended is sent a close without a reason. It is not among what is `sent`: `closed` stands for it.
def finish (side : Side) (r : Relay) : Relay :=
  { r.send side.other .normalClosure with ended := some side, closed := fun _ => true }

def step (r : Relay) (o : Occurrence) : Relay :=
  if r.ended.isSome then r
  else
    match o.arrival with
    | .fault => r.finish o.source
    | .ending => r.finish o.source
    | .frame (.close _) => r.finish o.source
    | .frame f =>
      if f.isData then
        if o.sendable then r.send o.source.other f else r.finish o.source.other
      else r

def run (os : List Occurrence) : Relay := os.foldl step {}

end Relay

end NotebookHost
