import NotebookHost.Deployment.Basic
import NotebookHost.Http.Message

/-!
The interface for managing notebooks: JSON over HTTP. Every error body is an object with the one
member `error`.
-/

namespace NotebookHost.Management

open Text Http

def programName : String := "notebook-hub"

def programVersion : String := "0.1.0"

inductive Route where
  | health
  | version
  | list
  | create
  | get (id : String)
  | update (id : String)
  | delete (id : String)
  | status (id : String)
  | reload (id : String)
  | methodNotAllowed
  | notFound
  deriving DecidableEq, Repr

namespace Route

def base : List Char := "/api/v1/notebooks".toList

def withoutFinalSlashes (path : List Char) : List Char :=
  if 1 < path.length then (path.reverse.dropWhile (· == '/')).reverse else path

def ofSegments (method : String) : List String → Route
  | [id] =>
    if method = "GET" then .get id
    else if method = "PUT" then .update id
    else if method = "DELETE" then .delete id
    else .methodNotAllowed
  | [id, action] =>
    if action = "status" then if method = "GET" then .status id else .methodNotAllowed
    else if action = "reload" then if method = "POST" then .reload id else .methodNotAllowed
    else .notFound
  | _ => .notFound

def ofRequest (method path : String) : Route :=
  let path := withoutFinalSlashes path.toList
  if path = "/health".toList then if method = "GET" then .health else .methodNotAllowed
  else if path = "/version".toList then if method = "GET" then .version else .methodNotAllowed
  else if path = base then
    if method = "GET" then .list
    else if method = "POST" then .create
    else .methodNotAllowed
  else
    match dropStart? (base ++ ['/']) path with
    | none => .notFound
    | some rest => ofSegments method ((split '/' rest).map String.ofList)

end Route

def json (status : Nat) (body : Json) : Response := .json status body.render

def error (status : Nat) (message : String) : Response :=
  json status (.record [("error", .text message)])

def failure (f : Failure) : Response := error f.httpStatus f.message

def noContent : Response := ⟨204, [], []⟩

def notebookBody (n : Notebook) : Json := .record [("notebook", n.toJson)]

def readDraft (body : List UInt8) : Except Response Draft :=
  match Draft.decode? body with
  | none => .error (error 400 "Invalid request")
  | some d =>
    match d.refusal? with
    | some reason => .error (error 400 reason)
    | none => .ok d

structure Circumstances where
  outage : Outage := {}
  machine : Machine := {}
  birth : Birth

def answerNotebook (status : Nat) : Except Failure Notebook → Response
  | .ok n => json status (notebookBody n)
  | .error f => failure f

def create (w : Circumstances) (d : Draft) (hub : Hub) : Hub × Response :=
  if d.name.isNone || d.path.isNone || d.domain.isNone then
    (hub, error 400 "Missing required fields")
  else
    let (hub, r) := hub.onCatalogue (Catalogue.add w.outage w.birth d)
    (hub, answerNotebook 201 r)

def update (w : Circumstances) (id : String) (d : Draft) (hub : Hub) : Hub × Response :=
  let (hub, r) := hub.onCatalogue (Catalogue.update w.outage id d)
  (hub, answerNotebook 200 r)

def answerDone : Except Failure Unit → Response
  | .ok () => noContent
  | .error f => failure f

def delete (w : Circumstances) (id : String) (hub : Hub) : Hub × Response :=
  let (hub, r) := hub.onCatalogue (Catalogue.delete w.outage id)
  (hub, answerDone r)

def get (w : Circumstances) (id : String) (hub : Hub) : Response :=
  match hub.catalogue.find? w.outage id with
  | some n => json 200 (notebookBody n)
  | none => error 404 "Notebook not found"

def list (w : Circumstances) (hub : Hub) : Response :=
  json 200 (.record [("notebooks", .array ((hub.catalogue.list w.outage).map Notebook.toJson))])

def status (id : String) (hub : Hub) : Response :=
  match hub.supervisor.status id with
  | .ok s => json 200 (.record [("status", s.toJson)])
  | .error f => failure f

def reload (w : Circumstances) (id : String) (hub : Hub) : Hub × Response :=
  match hub.catalogue.find? w.outage id with
  | none => (hub, error 404 "Notebook not found")
  | some n =>
    let (hub, r) := hub.onSupervisor (Supervisor.reload w.machine n)
    (hub, answerDone r)

def withDraft (body : Except String (List UInt8)) (hub : Hub) (act : Draft → Hub × Response) :
    Hub × Response :=
  match body with
  | .error e => (hub, error 500 ("Internal error: " ++ e))
  | .ok bytes =>
    match readDraft bytes with
    | .error refusal => (hub, refusal)
    | .ok d => act d

def answer (w : Circumstances) (method path : String) (body : Except String (List UInt8))
    (hub : Hub) : Hub × Response :=
  match Route.ofRequest method path with
  | .health => (hub, json 200 (.record [("status", .text "ok")]))
  | .version =>
    (hub, json 200 (.record [("name", .text programName), ("version", .text programVersion)]))
  | .list => (hub, list w hub)
  | .create => withDraft body hub fun d => create w d hub
  | .get id => (hub, get w id hub)
  | .update id => withDraft body hub fun d => update w id d hub
  | .delete id => delete w id hub
  | .status id => (hub, status id hub)
  | .reload id => reload w id hub
  | .methodNotAllowed => (hub, error 405 "Method not allowed")
  | .notFound => (hub, error 404 "Not found")

end NotebookHost.Management
