import NotebookHost.Text.Case
import NotebookHost.Text.Split

namespace NotebookHost.Hostname

open Text

def maxBytes : Nat := 253

def maxLabel : Nat := 63

def isLabelChar (c : Char) : Bool := c.isAlphanum || c == '-'

def isLabel (l : List Char) : Bool :=
  !l.isEmpty && l.length ≤ maxLabel && l.head? != some '-' && l.getLast? != some '-' &&
    l.all isLabelChar

def withoutFinalDots (h : List Char) : List Char := (h.reverse.dropWhile (· == '.')).reverse

def isValid (h : String) : Bool :=
  !h.isEmpty && h.utf8ByteSize ≤ maxBytes && (split '.' (withoutFinalDots h.toList)).all isLabel

def canonical (h : String) : String := lower h

/-- The canonical host of a `host:port` text, if the host has the length and the characters of a
name. Its labels are not looked at. -/
def ofAuthority? (authority : String) : Option String :=
  let host := upTo ':' authority.toList
  if host.isEmpty || maxBytes < (String.ofList host).utf8ByteSize then none
  else if host.all fun c => isLabelChar c || c == '.' then some (canonical (String.ofList host))
  else none

end NotebookHost.Hostname
