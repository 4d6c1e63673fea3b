import NotebookHost.Failure
import NotebookHost.Store.Database
import NotebookHost.Text.Split
import NotebookHost.Text.Utf8

/-!
Directories and files, as far as a start needs them: reading the settings, making the directories of
the database and opening it.
-/

namespace NotebookHost

open Text

inductive Node where
  | directory
  | file (bytes : List UInt8)
  | database (image : Image)

structure FileTree where
  nodes : List (List String × Node) := []

inductive PathError where
  | exists
  | notDirectory
  | nameTooLong
  | containsNul
  | isDirectory
  deriving DecidableEq, Repr

def PathError.message : PathError → String
  | .exists => "File exists (os error 17)"
  | .notDirectory => "Not a directory (os error 20)"
  | .nameTooLong => "File name too long (os error 36)"
  | .containsNul => "file name contained an unexpected NUL byte"
  | .isDirectory => "Is a directory (os error 21)"

namespace FileTree

def node? (t : FileTree) (names : List String) : Option Node :=
  if names.isEmpty then some .directory
  else (t.nodes.find? fun entry => entry.1 == names).map (·.2)

def set (t : FileTree) (names : List String) (n : Node) : FileTree :=
  ⟨(names, n) :: t.nodes.filter fun entry => entry.1 != names⟩

def names (path : String) : List String :=
  ((split '/' path.toList).map String.ofList).filter fun n => n != "" && n != "."

def maxName : Nat := 255

/-- Walks along a path from a place, making the directories that are missing. A file in the way is
told as such where the path goes on, unless a directory has just been made. -/
def makeAlong (t : FileTree) (here : List String) (made : Bool) :
    List String → Except PathError FileTree
  | [] => .ok t
  | n :: rest =>
    if n = ".." then t.makeAlong here.dropLast made rest
    else if maxName < n.utf8ByteSize then .error .nameTooLong
    else
      let next := here ++ [n]
      match t.node? next with
      | none => (t.set next .directory).makeAlong next true rest
      | some .directory => t.makeAlong next made rest
      | some _ => .error (if rest.isEmpty || made then .exists else .notDirectory)

def makeDirectories (t : FileTree) (path : String) : Except PathError FileTree :=
  if path.toList.contains '\x00' then .error .containsNul
  else t.makeAlong [] false (names path)

def parent? (path : String) : Option String :=
  let idle (s : List Char) := s.isEmpty || s == ['.']
  match (split '/' path.toList).reverse.dropWhile idle with
  | [] => none
  | _ :: rest => some ("/" ++ String.ofList (join '/' ((rest.dropWhile idle).reverse.drop 1)))

def place (path : String) : List String :=
  (names path).foldl (fun here n => if n = ".." then here.dropLast else here ++ [n]) []

def positionOfNul (path : String) : Nat :=
  (encode (String.ofList (path.toList.takeWhile (· != '\x00')))).length

def openDatabase (t : FileTree) (path : String) : Except Failure (FileTree × Database) :=
  match (parent? path).elim (.ok t) t.makeDirectories with
  | .error e => .error (.storage [e.message])
  | .ok t =>
    let cannot := Failure.storage ["Failed to open database", "unable to open database file: " ++ path]
    if path.toList.contains '\x00' then
      .error (.storage ["Failed to open database",
        "nul byte found in provided data at position: " ++ toString (positionOfNul path)])
    else if (place path).any (maxName < ·.utf8ByteSize) then .error cannot
    else
      match t.node? (place path) with
      | some .directory => .error cannot
      | some (.file (_ :: _)) => .error (.storage ["file is not a database"])
      | some (.database image) =>
        match Database.reopened {} ⟨.file, image⟩ with
        | .error e => .error e
        | .ok d => .ok (t.set (place path) (.database d.image), d)
      | _ =>
        let d : Database := .fresh .file
        .ok (t.set (place path) (.database d.image), d)

/-- The place that a path leads to by the directories on its way, if it leads anywhere. A path goes
on only from a directory, also if what follows is empty or a dot. -/
def follow? (t : FileTree) (here : List String) : List String → Option (List String)
  | [] => some here
  | n :: rest =>
    match t.node? here with
    | some .directory =>
      if n = "" || n = "." then t.follow? here rest
      else if n = ".." then t.follow? here.dropLast rest
      else if (t.node? (here ++ [n])).isSome then t.follow? (here ++ [n]) rest
      else none
    | _ => none

def read (t : FileTree) (path : String) : Except PathError (Option (List UInt8)) :=
  match (t.follow? [] ((split '/' path.toList).map String.ofList)).bind t.node? with
  | none => .ok none
  | some .directory => .error .isDirectory
  | some (.file bytes) => .ok (some bytes)
  | some (.database _) => .ok (some (encode "SQLite format 3\x00"))

end FileTree

end NotebookHost
