import NotebookHost.Store.Basic

/-!
A database holds a store together with the versions of its layout that were brought in. Opening it
brings the layout up to date, which keeps the rows of a layout that is current already. A database
in memory is empty whenever it is opened.
-/

namespace NotebookHost

inductive Medium where
  | memory
  | file
  deriving DecidableEq, Repr

structure Image where
  versions : List Nat := []
  store : Store := ∅

structure Database where
  medium : Medium
  image : Image := {}

inductive Call where
  | put (key value : String)
  | get (key : String)
  | delete (key : String)
  | scan (start : String)
  | reopen
  deriving DecidableEq, Repr

inductive Reply where
  | done
  | value (value : Option String)
  | deleted (found : Bool)
  | rows (rows : List (String × String))
  deriving DecidableEq, Repr

namespace Image

def layoutVersion : Nat := 1

/-- The last version that was brought in. Where it cannot be read, none seems to be there. -/
def version (o : Outage) (i : Image) : Nat := if o.read then 0 else i.versions.max?.getD 0

def enter (o : Outage) (version : Nat) (i : Image) : Except Failure Image :=
  if o.write || i.versions.contains version then .error (.storage [])
  else .ok { i with versions := i.versions ++ [version] }

def migrated (o : Outage) (i : Image) : Except Failure Image :=
  if i.version o < layoutVersion then i.enter o layoutVersion else .ok i

end Image

namespace Database

def reopened (o : Outage) (d : Database) : Except Failure Database :=
  let image : Image :=
    match d.medium with
    | .memory => {}
    | .file => d.image
  (image.migrated o).map fun i => { d with image := i }

def fresh (medium : Medium) : Database := ⟨medium, { versions := [Image.layoutVersion] }⟩

example (medium : Medium) : reopened {} ⟨medium, {}⟩ = .ok (fresh medium) := by
  cases medium <;> rfl

def store (d : Database) : Store := d.image.store

def setStore (d : Database) (s : Store) : Database := { d with image := { d.image with store := s } }

def call (o : Outage) (d : Database) : Call → Database × Except Failure Reply
  | .put key value =>
    match d.store.write o key value with
    | .ok s => (d.setStore s, .ok .done)
    | .error e => (d, .error e)
  | .get key =>
    match d.store.read o key with
    | .ok v => (d, .ok (.value v))
    | .error e => (d, .error e)
  | .delete key =>
    match d.store.erase o key with
    | .ok (s, found) => (d.setStore s, .ok (.deleted found))
    | .error e => (d, .error e)
  | .scan start =>
    match d.store.scan o start with
    | .ok rows => (d, .ok (.rows rows))
    | .error e => (d, .error e)
  | .reopen =>
    match d.reopened o with
    | .ok d => (d, .ok .done)
    | .error e => (d, .error e)

def run (d : Database) (history : List (Outage × Call)) : Database :=
  history.foldl (fun d step => (d.call step.1 step.2).1) d

end Database

end NotebookHost
