import NotebookHost.Toml.Line

namespace NotebookHost.Toml

structure Filling where
  root : Table
  path : List String

def Filling.start : Filling := ⟨⟨.header, []⟩, []⟩

def Filling.add (f : Filling) : Line → Option Filling
  | .pair key value =>
    (f.root.descend false (Table.assign key value) f.path).map fun root => { f with root }
  | .table path => (f.root.openTable path).map fun root => ⟨root, path⟩
  | .next path => (f.root.openNext path).map fun root => ⟨root, path⟩

def ofLines? (lines : List Line) : Option (List (String × Value)) :=
  (lines.foldlM Filling.add Filling.start).map fun f => entryValues f.root.entries

def withoutMark (s : List Char) : List Char :=
  match s with
  | '\ufeff' :: r => r
  | _ => s

def read (s : String) : Option (List (String × Value)) :=
  let s := withoutMark s.toList
  (readLines (s.length + 1) s).bind ofLines?

end NotebookHost.Toml
