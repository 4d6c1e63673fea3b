namespace NotebookHost

inductive Json where
  | null
  | bool (value : Bool)
  | number (literal : String)
  | string (text : Option String)
  | array (items : List Json)
  | object (members : List (Option String × Json))

namespace Json

def text (s : String) : Json := .string (some s)

def nat (n : Nat) : Json := .number (toString n)

def record (members : List (String × Json)) : Json :=
  .object (members.map fun (k, v) => (some k, v))

def text? : Json → Option String
  | .string t => t
  | _ => none

def bool? : Json → Option Bool
  | .bool b => some b
  | _ => none

def isNull : Json → Bool
  | .null => true
  | _ => false

def member? (key : String) : Json → Option Json
  | .object members => (members.find? (·.1 == some key)).map (·.2)
  | _ => none

def occurrences (key : String) (members : List (Option String × Json)) : Nat :=
  members.countP (·.1 == some key)

/-- The values of the named fields: from an object that repeats none of them, whatever other
members it has, or from an array that lists them in order and may leave out the last ones. -/
def fields? (names : List String) : Json → Option (List (Option Json))
  | .object members =>
    if members.all (·.1.isSome) && names.all (fun n => occurrences n members ≤ 1) then
      some (names.map fun n => (members.find? (·.1 == some n)).map (·.2))
    else none
  | .array items =>
    if items.length ≤ names.length then
      some (items.map some ++ List.replicate (names.length - items.length) none)
    else none
  | _ => none

/-- The name that stands for a choice: a string, or the key of an object that maps it to null. -/
def choice? : Json → Option String
  | .string t => t
  | .object [(key, .null)] => key
  | _ => none

end Json

end NotebookHost
