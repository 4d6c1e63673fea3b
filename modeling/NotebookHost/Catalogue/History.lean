import NotebookHost.Catalogue.Basic

namespace NotebookHost.Catalogue

inductive Operation where
  | add (birth : Birth) (d : Draft)
  | get (id : String)
  | getByDomain (domain : String)
  | list
  | update (id : String) (d : Draft)
  | delete (id : String)
  | reopen

inductive Reply where
  | notebook (n : Notebook)
  | maybe (n : Option Notebook)
  | notebooks (ns : List Notebook)
  | done
  deriving DecidableEq

def reply {α : Type} (f : α → Reply) : Catalogue × Except Failure α → Catalogue × Except Failure Reply
  | (c, r) => (c, r.map f)

def perform (o : Outage) (op : Operation) (c : Catalogue) : Catalogue × Except Failure Reply :=
  match op with
  | .add birth d => reply .notebook (c.add o birth d)
  | .get id => (c, .ok (.maybe (c.find? o id)))
  | .getByDomain domain => (c, .ok (.maybe (c.findByDomain? o domain)))
  | .list => (c, .ok (.notebooks (c.list o)))
  | .update id d => reply .notebook (c.update o id d)
  | .delete id => reply (fun _ => .done) (c.delete o id)
  | .reopen =>
    match ofStore o c.store with
    | .ok c => (c, .ok .done)
    | .error e => (c, .error e)

def run (c : Catalogue) (history : List (Outage × Operation)) : Catalogue :=
  history.foldl (fun c step => (c.perform step.1 step.2).1) c

end NotebookHost.Catalogue
