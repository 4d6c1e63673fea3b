import NotebookHost.Text.Decimal
import NotebookHost.Text.Split

/-!
What a request asks for: a path, a whole address, a host alone, or a star. `ofText?` reads the four
forms; a fragment at the end of a path or a query is dropped.
-/

namespace NotebookHost.Http

open Text

structure PathQuery where
  path : List Char
  query : Option (List Char)
  deriving DecidableEq, Repr

inductive Target where
  | star
  | path (p : PathQuery)
  | host (authority : List Char)
  | absolute (scheme authority : List Char) (p : PathQuery)
  deriving DecidableEq, Repr

namespace PathQuery

def isPathChar (c : Char) : Bool :=
  let n := c.toNat
  n == 0x21 || n == 0x22 || (0x24 ≤ n && n ≤ 0x3b) || n == 0x3d || (0x40 ≤ n && n ≤ 0x5f) ||
    0x61 ≤ n

def isQueryChar (c : Char) : Bool :=
  let n := c.toNat
  n == 0x21 || (0x24 ≤ n && n ≤ 0x3b) || n == 0x3d || 0x3f ≤ n

def ofChars? (s : List Char) : Option PathQuery :=
  let s := upTo '#' s
  match splitOnce '?' s with
  | none => if s.all isPathChar then some ⟨s, none⟩ else none
  | some (path, query) =>
    if path.all isPathChar && query.all isQueryChar then some ⟨path, some query⟩ else none

def toChars (p : PathQuery) : List Char :=
  match p.query with
  | none => p.path
  | some q => p.path ++ '?' :: q

end PathQuery

namespace Target

def isSchemeChar (c : Char) : Bool := c.isAlphanum || c == '+' || c == '-' || c == '.'

def maxScheme : Nat := 64

/-- The scheme in front of `://` and what follows, no scheme and the whole text, or `none` if the
scheme is too long. -/
def cutScheme (s : List Char) : Option (Option (List Char) × List Char) :=
  let scheme := s.takeWhile isSchemeChar
  match s.dropWhile isSchemeChar with
  | ':' :: '/' :: '/' :: r => if maxScheme < scheme.length then none else some (some scheme, r)
  | _ => some (none, s)

def isAuthorityChar (c : Char) : Bool :=
  c.isAlphanum || ['!', '$', '&', '\x27', '(', ')', '*', '+', ',', '-', '.', ';', '=', '_', '~'].contains c

structure AuthorityState where
  colons : Nat := 0
  opened : Bool := false
  closed : Bool := false
  percent : Bool := false

def maxColons : Nat := 8

def AuthorityState.next? (st : AuthorityState) (c : Char) : Option AuthorityState :=
  if c = ':' then if maxColons ≤ st.colons then none else some { st with colons := st.colons + 1 }
  else if c = '[' then if st.percent || st.opened then none else some { st with opened := true }
  else if c = ']' then
    if st.opened && !st.closed then some { st with closed := true, colons := 0, percent := false }
    else none
  else if c = '@' then some { st with colons := 0, percent := false }
  else if c = '%' then some { st with percent := true }
  else if isAuthorityChar c then some st
  else none

/-- A host with an optional user in front and an optional port behind. Percent signs may stand only
in the user, and colons elsewhere only between brackets. -/
def isAuthority (s : List Char) : Bool :=
  match s.foldlM AuthorityState.next? {} with
  | none => false
  | some st => st.opened == st.closed && st.colons ≤ 1 && !st.percent && s.getLast? != some '@'

def endsAuthority (c : Char) : Bool := c == '/' || c == '?' || c == '#'

def ofAddress? (s : List Char) : Option Target :=
  match cutScheme s with
  | none => none
  | some (none, s) => if isAuthority s then some (.host s) else none
  | some (some scheme, s) =>
    let authority := s.takeWhile (!endsAuthority ·)
    if !authority.isEmpty && isAuthority authority then
      (PathQuery.ofChars? (s.dropWhile (!endsAuthority ·))).map (.absolute scheme authority)
    else none

def maxBytes : Nat := 65534

def ofChars? : List Char → Option Target
  | [] => none
  | ['*'] => some .star
  | '/' :: r => (PathQuery.ofChars? ('/' :: r)).map .path
  | s => ofAddress? s

def ofText? (s : String) : Option Target :=
  if maxBytes < s.utf8ByteSize then none else ofChars? s.toList

def pathOf (p : PathQuery) : List Char := if p.path.isEmpty then ['/'] else p.path

def pathChars : Target → List Char
  | .star => ['*']
  | .path p => pathOf p
  | .host _ => []
  | .absolute _ _ p => pathOf p

def pathText (t : Target) : String := String.ofList t.pathChars

def query? : Target → Option String
  | .path p => p.query.map String.ofList
  | .absolute _ _ p => p.query.map String.ofList
  | _ => none

def pathQuery? : Target → Option String
  | .star => some "*"
  | .path p => some (orSlash p.toChars)
  | .host _ => none
  | .absolute _ _ p => some (orSlash p.toChars)
where
  orSlash (s : List Char) : String := if s.isEmpty then "/" else String.ofList s

def authority? : Target → Option (List Char)
  | .host a => some a
  | .absolute _ a _ => some a
  | _ => none

def hostOf (authority : List Char) : List Char :=
  let place := (authority.reverse.takeWhile (· != '@')).reverse
  match place with
  | '[' :: _ => place.takeWhile (· != ']') ++ [']']
  | _ => upTo ':' place

def host? (t : Target) : Option String := (t.authority?).map fun a => String.ofList (hostOf a)

def portOf? (authority : List Char) : Option Nat :=
  if authority.contains ':' then
    (readNat 65535 (authority.reverse.takeWhile (· != ':')).reverse).toOption
  else none

def port? (t : Target) : Option Nat := t.authority?.bind portOf?

end Target

end NotebookHost.Http
