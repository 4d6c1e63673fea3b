import NotebookHost.Hostname
import NotebookHost.Notebook.Codec
import NotebookHost.Store.Basic

/-!
The catalogue of notebooks. Records are kept in the store as JSON under `notebook:` and their id; an
index in memory says which notebook was last given a domain, and is trusted only as far as the
record agrees. Every change is announced. Checks come before effects, so that an operation that
fails leaves everything as it was.
-/

namespace NotebookHost

open Text

structure Birth where
  id : String
  createdAt : Instant

structure Catalogue where
  store : Store := ∅
  owners : Std.TreeMap String String := ∅
  announced : List Event := []

namespace Catalogue

def keyStart : String := "notebook:"

def key (id : String) : String := keyStart ++ id

def records (o : Outage) (s : Store) : Except Failure (List Notebook) :=
  match s.scan o keyStart with
  | .error e => .error e
  | .ok rows => .ok (rows.filterMap fun row => Notebook.decode? row.2)

def ownerOf (o : Outage) (s : Store) (domain : String) : Except Failure (Option Notebook) :=
  match records o s with
  | .error e => .error e
  | .ok ns => .ok (ns.find? fun n => sameLetters n.domain domain)

/-- The notebook of an id. A store that does not answer and a record that cannot be read count as
no notebook. -/
def find? (o : Outage) (c : Catalogue) (id : String) : Option Notebook :=
  match c.store.read o (key id) with
  | .ok (some value) => Notebook.decode? value
  | _ => none

/-- The notebook of a domain in any case. Without an entry in the index there is none; an entry that
the record does not bear out leads to a search of all records. -/
def findByDomain? (o : Outage) (c : Catalogue) (domain : String) : Option Notebook :=
  let domain := Hostname.canonical domain
  match c.owners[domain]? with
  | none => none
  | some id =>
    match (c.find? o id).filter fun n => sameLetters n.domain domain with
    | some n => some n
    | none =>
      match ownerOf o c.store domain with
      | .ok found => found
      | .error _ => none

def list (o : Outage) (c : Catalogue) : List Notebook :=
  match records o c.store with
  | .ok ns => ns
  | .error _ => []

def keep (o : Outage) (c : Catalogue) (n : Notebook) : Except Failure Catalogue :=
  match c.store.write o (key n.id) n.encode with
  | .error e => .error e
  | .ok s => .ok { c with store := s }

def claim (c : Catalogue) (domain id : String) : Catalogue :=
  { c with owners := c.owners.insert domain id }

def release (c : Catalogue) (domain : String) : Catalogue :=
  { c with owners := c.owners.erase domain }

def releaseFrom (c : Catalogue) (domain id : String) : Catalogue :=
  if c.owners[domain]? = some id then c.release domain else c

def announce (c : Catalogue) (change : Change) (n : Notebook) : Catalogue :=
  { c with announced := c.announced ++ [⟨change, n⟩] }

def add (o : Outage) (birth : Birth) (d : Draft) (c : Catalogue) :
    Catalogue × Except Failure Notebook :=
  match d.name, d.path, d.domain with
  | some name, some path, some domain =>
    let domain := Hostname.canonical domain
    match ownerOf o c.store domain with
    | .error e => (c, .error e)
    | .ok (some _) => (c, .error (.domainTaken domain))
    | .ok none =>
      let n : Notebook :=
        { id := birth.id
          name
          path
          domain
          showCode := d.showCode.getD false
          watch := d.watch.getD false
          createdAt := birth.createdAt }
      match c.keep o n with
      | .error e => (c, .error e)
      | .ok c => ((c.claim n.domain n.id).announce .added n, .ok n)
  | _, _, _ => (c, .error (.invalid "name, path, and domain are required for creation"))

def takenBesides (o : Outage) (c : Catalogue) (id domain : String) : Except Failure Bool :=
  match ownerOf o c.store domain with
  | .error e => .error e
  | .ok owner => .ok (owner.any (·.id != id))

def replace (o : Outage) (before after : Notebook) (c : Catalogue) :
    Catalogue × Except Failure Notebook :=
  match c.keep o after with
  | .error e => (c, .error e)
  | .ok c =>
    let c :=
      if sameLetters after.domain before.domain then c
      else (c.release (Hostname.canonical before.domain)).claim after.domain after.id
    (c.announce .updated after, .ok after)

def update (o : Outage) (id : String) (d : Draft) (c : Catalogue) :
    Catalogue × Except Failure Notebook :=
  match c.find? o id with
  | none => (c, .error (.unknown id))
  | some before =>
    let after := d.apply before
    if after = before then (c, .ok before)
    else if sameLetters after.domain before.domain then c.replace o before after
    else
      match c.takenBesides o id after.domain with
      | .error e => (c, .error e)
      | .ok true => (c, .error (.domainTaken after.domain))
      | .ok false => c.replace o before after

def delete (o : Outage) (id : String) (c : Catalogue) : Catalogue × Except Failure Unit :=
  match c.find? o id with
  | none => (c, .error (.unknown id))
  | some n =>
    match c.store.erase o (key id) with
    | .error e => (c, .error e)
    | .ok (_, false) => (c, .error (.unknown id))
    | .ok (s, true) =>
      let c := { c with store := s }
      ((c.releaseFrom (Hostname.canonical n.domain) id).announce .deleted n, .ok ())

def takeUp (c : Catalogue) (n : Notebook) : Catalogue :=
  (c.claim (Hostname.canonical n.domain) n.id).announce .added n

def ofStore (o : Outage) (s : Store) : Except Failure Catalogue :=
  match records o s with
  | .error e => .error e
  | .ok ns => .ok (ns.foldl takeUp { store := s })

end Catalogue

end NotebookHost
