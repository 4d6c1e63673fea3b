import NotebookHost.Toml.Number
import NotebookHost.Toml.Text

namespace NotebookHost.Toml

open Text

def maxDepth : Nat := 80

def inBareKey (c : Char) : Bool := c.isAlphanum || c == '-' || c == '_'

def readSimpleKey (s : List Char) : Option (String × List Char) :=
  match s with
  | '"' :: r => readBasic [] r
  | '\x27' :: r => readLiteral r
  | _ =>
    match s.takeWhile inBareKey with
    | [] => none
    | ks => some (String.ofList ks, s.dropWhile inBareKey)

def readKeyParts : Nat → List Char → Option (List String × List Char)
  | 0, _ => none
  | n + 1, s =>
    match readSimpleKey (skipBlanks s) with
    | none => none
    | some (k, r) =>
      match skipBlanks r with
      | '.' :: r => (readKeyParts n r).map fun (ks, r) => (k :: ks, r)
      | r => some ([k], r)

def readKey (s : List Char) : Option (List String × List Char) := readKeyParts (maxDepth - 1) s

inductive Origin where
  | header
  | passing
  | dotted
  deriving DecidableEq, Repr

inductive Node where
  | leaf (value : Value)
  | table (origin : Origin) (entries : List (String × Node))
  | series (tables : List (List (String × Node)))

structure Table where
  origin : Origin
  entries : List (String × Node)

namespace Table

def find? (t : Table) (key : String) : Option Node := (t.entries.find? (·.1 == key)).map (·.2)

def put (t : Table) (key : String) (node : Node) : Table :=
  if t.entries.any (·.1 == key) then
    { t with entries := t.entries.map fun e => if e.1 == key then (key, node) else e }
  else { t with entries := t.entries ++ [(key, node)] }

/-- Acts on the table that the path leads to. Tables on the way are made if need be; of a series
the path takes the last table. A dotted path does not enter a table that has its own header. -/
def descend (dotted : Bool) (act : Table → Option Table) : List String → Table → Option Table
  | [], t => act t
  | key :: path, t =>
    match t.find? key with
    | none =>
      let made : Table := ⟨if dotted then .dotted else .passing, []⟩
      (descend dotted act path made).map fun u => t.put key (.table u.origin u.entries)
    | some (.leaf _) => none
    | some (.table origin entries) =>
      if dotted && origin == .header then none
      else (descend dotted act path ⟨origin, entries⟩).map fun u =>
        t.put key (.table u.origin u.entries)
    | some (.series tables) =>
      match tables.getLast? with
      | none => none
      | some last => (descend dotted act path ⟨.header, last⟩).map fun u =>
        t.put key (.series (tables.dropLast ++ [u.entries]))

/-- Gives a value to the last part of a dotted key. A table made by dotted keys takes only dotted
keys, and no other table that is entered takes one; no key is given twice. -/
def assign (key : List String) (value : Value) (t : Table) : Option Table :=
  match key.getLast? with
  | none => none
  | some k =>
    let path := key.dropLast
    descend true (fun u =>
      if (u.origin == .dotted) == path.isEmpty then none
      else if (u.find? k).isSome then none
      else some (u.put k (.leaf value))) path t

def openTable (path : List String) (t : Table) : Option Table :=
  match path.getLast? with
  | none => none
  | some k =>
    descend false (fun u =>
      match u.find? k with
      | none => some (u.put k (.table .header []))
      | some (.table .passing entries) => some (u.put k (.table .header entries))
      | _ => none) path.dropLast t

def openNext (path : List String) (t : Table) : Option Table :=
  match path.getLast? with
  | none => none
  | some k =>
    descend false (fun u =>
      match u.find? k with
      | none => some (u.put k (.series [[]]))
      | some (.series tables) => some (u.put k (.series (tables ++ [[]])))
      | _ => none) path.dropLast t

end Table

mutual

def Node.toValue : Node → Value
  | .leaf v => v
  | .table _ entries => .table (entryValues entries)
  | .series tables => .array (tableValues tables)

def entryValues : List (String × Node) → List (String × Value)
  | [] => []
  | (k, n) :: es => (k, n.toValue) :: entryValues es

def tableValues : List (List (String × Node)) → List Value
  | [] => []
  | t :: ts => .table (entryValues t) :: tableValues ts

end

mutual

def readValue : Nat → Nat → List Char → Option (Value × List Char)
  | 0, _, _ => none
  | n + 1, depth, s =>
    match s with
    | [] => none
    | c :: r =>
      if c = '"' ∨ c = '\x27' then (readText s).map fun (t, r) => (.string t, r)
      else if c = '[' then
        if maxDepth ≤ depth + 1 then none else readItems n (depth + 1) [] r
      else if c = '{' then
        if maxDepth ≤ depth + 1 then none
        else
          match skipBlanks r with
          | '}' :: r => some (.table [], r)
          | r => readPairs n (depth + 1) ⟨.header, []⟩ r
      else if c = 't' then (dropStart? ['t', 'r', 'u', 'e'] s).map (.boolean true, ·)
      else if c = 'f' then (dropStart? ['f', 'a', 'l', 's', 'e'] s).map (.boolean false, ·)
      else readNumber s

def readItems : Nat → Nat → List Value → List Char → Option (Value × List Char)
  | 0, _, _, _ => none
  | n + 1, depth, before, s =>
    match skipLines s with
    | ']' :: r => some (.array before.reverse, r)
    | r =>
      match readValue n depth r with
      | none => none
      | some (v, r) =>
        match skipLines r with
        | ',' :: r => readItems n depth (v :: before) r
        | ']' :: r => some (.array (v :: before).reverse, r)
        | _ => none

def readPairs : Nat → Nat → Table → List Char → Option (Value × List Char)
  | 0, _, _, _ => none
  | n + 1, depth, before, s =>
    match readKey s with
    | some (key, '=' :: r) =>
      match readValue n depth (skipBlanks r) with
      | none => none
      | some (v, r) =>
        match before.assign key v with
        | none => none
        | some table =>
          match skipBlanks r with
          | ',' :: r => readPairs n depth table r
          | '}' :: r => some (.table (entryValues table.entries), r)
          | _ => none
    | _ => none

end

inductive Line where
  | pair (key : List String) (value : Value)
  | table (path : List String)
  | next (path : List String)

def readLine (s : List Char) : Option (Line × List Char) :=
  match s with
  | '[' :: '[' :: r =>
    match readKey r with
    | some (path, ']' :: ']' :: r) => (restOfLine? r).map (.next path, ·)
    | _ => none
  | '[' :: r =>
    match readKey r with
    | some (path, ']' :: r) => (restOfLine? r).map (.table path, ·)
    | _ => none
  | _ =>
    match readKey s with
    | some (key, '=' :: r) =>
      match readValue (2 * r.length + 2) 0 (skipBlanks r) with
      | some (v, r) => (restOfLine? r).map (.pair key v, ·)
      | none => none
    | _ => none

def readLines : Nat → List Char → Option (List Line)
  | 0, _ => none
  | n + 1, s =>
    match skipLines s with
    | [] => some []
    | r =>
      match readLine r with
      | none => none
      | some (line, r) => (readLines n r).map (line :: ·)

end NotebookHost.Toml
