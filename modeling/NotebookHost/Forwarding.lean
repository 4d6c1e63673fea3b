import NotebookHost.Handshake
import NotebookHost.Hostname
import NotebookHost.Http.Request
import NotebookHost.Routing

/-!
The public listener. A request is for the host that its host field or its address names; an upgrade
at the place for web sockets is answered here, and everything else is sent on to the notebook of the
host. What a client claims about where its request came from is overwritten, save for a claim about the
host in a request without a host field.
-/

namespace NotebookHost.Forwarding

open Http

/-- The host that a request is for. The address counts if the host field is missing or no text. -/
def hostOf? (r : Request) : Option String :=
  ((r.headers.firstText? "host").or r.target.host?).bind Hostname.ofAuthority?

def requestId (headers : Headers) (generated : String) : String :=
  (headers.firstText? "x-request-id").getD generated

def insertText (hs : Headers) (name value : String) : Headers :=
  match Header.ofText? name value with
  | some h => hs.set name h.value
  | none => hs

def stamp (peer id : String) (hs : Headers) : Headers :=
  let hs := insertText (insertText hs "x-request-id" id) "x-forwarded-for" peer
  let hs :=
    match hs.first? "host" with
    | some h => hs.set "x-forwarded-host" h.value
    | none => hs
  hs.setText "x-forwarded-proto" "http"

structure Outgoing where
  host : String
  port : Nat
  method : String
  path : String
  headers : Headers
  body : List UInt8
  deriving DecidableEq, Repr

def defaultPort : Nat := 80

def backendAddress (port : Port) (t : Target) : String :=
  "http://127.0.0.1:" ++ Port.toText port ++ t.pathQuery?.getD "/"

def withHost (host : String) (port : Nat) (hs : Headers) : Headers :=
  if (hs.first? "host").isSome then hs
  else hs.setText "host" (if port = defaultPort then host else host ++ ":" ++ toString port)

def requestPath (pathQuery : String) : String :=
  if pathQuery.toList.head? = some '/' then pathQuery else "/" ++ pathQuery

def outgoing? (r : Request) (port : Port) : Option Outgoing :=
  match Target.ofText? (backendAddress port r.target) with
  | none => none
  | some t =>
    let host := t.host?.getD ""
    let port := t.port?.getD defaultPort
    some
      { host
        port
        method := r.method
        path := requestPath (t.pathQuery?.getD "/")
        headers := withHost host port r.headers
        body := r.body }

inductive Reply where
  | response (r : Response)
  | failure
  | late (seconds : Nat)
  deriving DecidableEq, Repr

-- Counted and shown, and read by nothing else: that a counter of 64 bits starts anew after 2 ^ 64 requests changes no
-- answer.
structure Stats where
  forwarded : Nat := 0
  failed : Nat := 0
  deriving DecidableEq, Repr

def withContentType (r : Response) : Response :=
  if (r.headers.first? "content-type").isSome then r
  else { r with headers := r.headers ++ [.ofText "content-type" "application/json"] }

def failed : Rejection := ⟨.backendFailed, "Failed to proxy request"⟩

def timedOut (seconds : Nat) : Rejection :=
  ⟨.timedOut, "Request timed out after " ++ toString seconds ++ " seconds"⟩

def send (exchange : Outgoing → Reply) (r : Request) (port : Port) (stats : Stats) :
    Stats × Except Rejection Response :=
  match outgoing? r port with
  | none => (stats, .error failed)
  | some o =>
    let stats := { stats with forwarded := stats.forwarded + 1 }
    let lost := { stats with failed := stats.failed + 1 }
    match exchange o with
    | .response r => (stats, .ok (withContentType r))
    | .failure => (lost, .error failed)
    | .late seconds => (lost, .error (timedOut seconds))

structure Listener where
  sockets : SocketSettings
  directory : Directory
  exchange : Outgoing → Reply

inductive Answer where
  | response (r : Response)
  | upgraded (r : Response) (u : Upgrade)
  deriving DecidableEq, Repr

def Answer.ofRejection (r : Rejection) : Answer := .response r.response

def Answer.ofHandshake : Except Rejection (Response × Upgrade) → Answer
  | .ok (r, u) => .upgraded r u
  | .error e => .ofRejection e

def isUpgrade (l : Listener) (r : Request) : Bool :=
  Handshake.serves l.sockets r.target.pathText && Handshake.isRequested r.headers

def forward (l : Listener) (peer id host : String) (r : Request) (stats : Stats) : Stats × Answer :=
  match l.directory.resolve host with
  | .error e => (stats, .ofRejection e.rejection)
  | .ok backend =>
    match send l.exchange { r with headers := stamp peer id r.headers } backend.port stats with
    | (stats, .ok r) => (stats, .response r)
    | (stats, .error e) => (stats, .ofRejection e)

def answer (l : Listener) (peer generatedId : String) (r : Request) (stats : Stats) :
    Stats × Answer :=
  match hostOf? r with
  | none => (stats, .ofRejection ⟨.missingHost, "Missing or invalid Host header"⟩)
  | some host =>
    if isUpgrade l r then
      (stats, .ofHandshake (Handshake.answer l.sockets r.target r.headers host))
    else forward l peer (requestId r.headers generatedId) host r stats

end NotebookHost.Forwarding
