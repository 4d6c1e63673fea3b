import NotebookHost.Handshake
import NotebookHost.Http.Request
import NotebookHost.Relay
import NotebookHost.Routing

/-!
A web socket session before its relay: the host is looked up, the notebook is dialled, and where
that fails the client is told why by the frame that closes its socket. A lookup that panics is
reported to the client too.
-/

namespace NotebookHost.Session

open Http

inductive Panic where
  | text (s : String)
  | other
  deriving DecidableEq, Repr

def Panic.message : Panic → String
  | .text s => s
  | .other => "internal error"

inductive Dial where
  | connected
  | failed (reason : String)
  | late
  deriving DecidableEq, Repr

def placeOf (authority : List Char) : List Char :=
  (authority.reverse.takeWhile (· != '@')).reverse

def withSubprotocol (subprotocol : Option String) (hs : Headers) : Headers :=
  match subprotocol.bind (Header.ofText? "sec-websocket-protocol") with
  | some h => hs.set h.name h.value
  | none => hs

def dialRequest? (u : Upgrade) (port : Port) (key : String) : Option Request :=
  match Target.ofText? (u.backendUrl port) with
  | none => none
  | some target =>
    match target.authority? with
    | none => none
    | some authority =>
      let opening :=
        [Header.ofText "host" (String.ofList (placeOf authority)), .ofText "connection" "Upgrade",
          .ofText "upgrade" "websocket", .ofText "sec-websocket-version" "13",
          .ofText "sec-websocket-key" key]
      let cookies := u.cookies.map fun c => ⟨"cookie", c⟩
      some
        { method := "GET"
          target
          headers := withSubprotocol u.subprotocol (opening ++ cookies)
          body := [] }

inductive Start where
  | relaying (port : Port)
  | over (frames : List Frame)
  deriving DecidableEq, Repr

def closing (code : Nat) (reason : String) : Start := .over [.close (some (code, reason))]

def serve (u : Upgrade) (key : String) (dial : Request → Dial) :
    Except RouteError Backend → Start
  | .error e => closing e.closeCode e.message
  | .ok backend =>
    match dialRequest? u backend.port key with
    | none => closing 1011 "invalid backend url"
    | some request =>
      match dial request with
      | .connected => .relaying backend.port
      | .failed reason => closing 1013 reason
      | .late => closing 1013 "backend dial timed out"

def report (p : Panic) : List Frame :=
  [.text (Json.record [("error", .text p.message)]).render, .close none]

def start (u : Upgrade) (key : String) (dial : Request → Dial)
    (resolved : Except Panic (Except RouteError Backend)) : Start :=
  match resolved with
  | .error p => .over (report p)
  | .ok route => serve u key dial route

end NotebookHost.Session
