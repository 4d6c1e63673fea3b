import NotebookHost.Digest.Base64
import NotebookHost.Digest.Sha1
import NotebookHost.Http.Target
import NotebookHost.Refusal
import NotebookHost.Settings.Basic
import NotebookHost.Text.Blank

/-!
The opening handshake of a web socket: whether a request asks for one, on which subprotocol both
sides agree, and the answer. An accepted handshake leaves an `Upgrade`, which says what the session
dials at the notebook.
-/

namespace NotebookHost

open Text Http

structure Upgrade where
  hostname : String
  path : String
  query : Option String
  headers : Headers
  cookies : List (List UInt8)
  subprotocol : Option String
  deriving DecidableEq, Repr

namespace Upgrade

def ofRequest (target : Target) (headers : Headers) (hostname : String) : Upgrade :=
  { hostname
    path := target.pathText
    query := target.query?
    headers
    cookies := (headers.all "cookie").map (·.value)
    subprotocol := none }

def backendUrl (u : Upgrade) (port : Port) : String :=
  "ws://127.0.0.1:" ++ Port.toText port ++ u.path ++
    match u.query with
    | none => ""
    | some q => if q.isEmpty then "" else "?" ++ q

end Upgrade

namespace Handshake

def isRequested (headers : Headers) : Bool :=
  let lists (v : String) := (split ',' v.toList).any fun t =>
    sameLetters (String.ofList (trim t)) "upgrade"
  (headers.texts "connection").any lists &&
    (headers.firstText? "upgrade").any (sameLetters · "websocket")

def offers (headers : Headers) : List String :=
  ((headers.texts "sec-websocket-protocol").flatMap fun v =>
    (split ',' v.toList).map fun t => String.ofList (trim t)).filter (!·.isEmpty)

def agreed? (headers : Headers) (supported : List String) : Option String :=
  supported.find? (offers headers).contains

def serves (settings : SocketSettings) (path : String) : Bool := path == settings.path

def keySuffix : String := "258EAFA5-E914-47DA-95CA-C5AB0DC85B11"

def acceptance (key : List UInt8) : String :=
  String.ofList (Digest.Base64.encode (Digest.Sha1.digest (key ++ encode keySuffix)))

/-- Switching protocols, or `none` if the subprotocol cannot stand in a field. -/
def switching? (key : List UInt8) (subprotocol : Option String) : Option Response :=
  let base := [Header.ofText "connection" "Upgrade", .ofText "upgrade" "websocket",
    .ofText "sec-websocket-accept" (acceptance key)]
  match subprotocol with
  | none => some ⟨101, base, []⟩
  | some s => (Header.ofText? "sec-websocket-protocol" s).map fun h => ⟨101, base ++ [h], []⟩

def answer (settings : SocketSettings) (target : Target) (headers : Headers) (hostname : String) :
    Except Rejection (Response × Upgrade) :=
  if (headers.first? "sec-websocket-version").map (·.value) ≠ some (encode "13") then
    .error ⟨.invalidUpgrade, "Unsupported WebSocket version"⟩
  else
    match headers.first? "sec-websocket-key" with
    | none => .error ⟨.invalidUpgrade, "Missing Sec-WebSocket-Key"⟩
    | some key =>
      if settings.allows (headers.firstText? "origin") then
        let subprotocol := agreed? headers settings.subprotocols
        match switching? key.value subprotocol with
        | none => .error ⟨.internal, "Internal error"⟩
        | some response =>
          .ok (response, { Upgrade.ofRequest target headers hostname with subprotocol })
      else .error ⟨.originNotAllowed, "Origin not allowed"⟩

end Handshake

end NotebookHost
