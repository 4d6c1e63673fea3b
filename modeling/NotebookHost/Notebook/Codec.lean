import NotebookHost.Instant.Text
import NotebookHost.Json.Reader
import NotebookHost.Json.Writer
import NotebookHost.Notebook.Draft

namespace NotebookHost

open Json

namespace Notebook

def fieldNames : List String :=
  ["id", "name", "path", "domain", "show_code", "watch", "created_at"]

def toJson (n : Notebook) : Json :=
  record [("id", text n.id), ("name", text n.name), ("path", text n.path),
    ("domain", text n.domain), ("show_code", .bool n.showCode), ("watch", .bool n.watch),
    ("created_at", text n.createdAt.toText)]

def switch? : Option Json → Option Bool
  | none => some false
  | some j => j.bool?

def ofFields? : List (Option Json) → Option Notebook
  | [some id, some name, some path, some domain, showCode, watch, some createdAt] => do
    let id ← id.text?
    let name ← name.text?
    let path ← path.text?
    let domain ← domain.text?
    let showCode ← switch? showCode
    let watch ← switch? watch
    let createdAt ← createdAt.text?.bind Instant.ofText?
    some { id, name, path, domain, showCode, watch, createdAt }
  | _ => none

def ofJson? (j : Json) : Option Notebook := (j.fields? fieldNames).bind ofFields?

def encode (n : Notebook) : String := n.toJson.render

def decode? (s : String) : Option Notebook := (Json.ofString? s).bind ofJson?

end Notebook

namespace Draft

def fieldNames : List String := ["name", "path", "domain", "show_code", "watch"]

def toJson (d : Draft) : Json :=
  record ([("name", d.rawName.map text), ("path", d.rawPath.map text),
    ("domain", d.rawDomain.map text), ("show_code", d.showCode.map .bool),
    ("watch", d.watch.map .bool)].filterMap fun (k, j) => j.map (k, ·))

/-- A field that may be null or left out; the outer `none` is a value of another kind. -/
def optional? {α : Type} (read : Json → Option α) : Option Json → Option (Option α)
  | none => some none
  | some j => if j.isNull then some none else (read j).map some

def ofFields? : List (Option Json) → Option Draft
  | [name, path, domain, showCode, watch] => do
    let rawName ← optional? text? name
    let rawPath ← optional? text? path
    let rawDomain ← optional? text? domain
    let showCode ← optional? bool? showCode
    let watch ← optional? bool? watch
    some { rawName, rawPath, rawDomain, showCode, watch }
  | _ => none

def ofJson? (j : Json) : Option Draft := (j.fields? fieldNames).bind ofFields?

def encode (d : Draft) : String := d.toJson.render

def decode? (bytes : List UInt8) : Option Draft := (Json.ofBytes? bytes).bind ofJson?

end Draft

def Change.toJson (c : Change) : Json := text c.name

def Change.ofJson? (j : Json) : Option Change := j.choice?.bind Change.ofName?

def Status.toJson (s : Status) : Json := text s.name

def Status.ofJson? (j : Json) : Option Status := j.choice?.bind Status.ofName?

end NotebookHost
