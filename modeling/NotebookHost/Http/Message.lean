import NotebookHost.Text.Case
import NotebookHost.Text.Utf8

namespace NotebookHost.Http

open Text

def isTokenChar (c : Char) : Bool :=
  c.isAlphanum ||
    ['!', '#', '$', '%', '&', '\x27', '*', '+', '-', '.', '^', '_', '\x60', '|', '~'].contains c

def isToken (s : String) : Bool := !s.isEmpty && s.toList.all isTokenChar

structure Header where
  name : String
  value : List UInt8
  deriving DecidableEq, Repr

namespace Header

def ofText (name value : String) : Header := ⟨name, encode value⟩

def isValueByte (b : UInt8) : Bool := (0x20 ≤ b && b != 0x7f) || b == 0x09

def maxName : Nat := 65535

def of? (name : String) (value : List UInt8) : Option Header :=
  if isToken name && name.length ≤ maxName && value.all isValueByte then
    some ⟨lower name, value⟩
  else none

def ofText? (name value : String) : Option Header := of? name (encode value)

def text? (h : Header) : Option String :=
  if h.value.all fun b => (0x20 ≤ b && b < 0x7f) || b == 0x09 then
    some (String.ofList (h.value.map fun b => Char.ofNat b.toNat))
  else none

end Header

abbrev Headers := List Header

namespace Headers

def all (hs : Headers) (name : String) : Headers := hs.filter (·.name == name)

def first? (hs : Headers) (name : String) : Option Header := hs.find? (·.name == name)

def firstText? (hs : Headers) (name : String) : Option String := (hs.first? name).bind Header.text?

def texts (hs : Headers) (name : String) : List String := (hs.all name).filterMap Header.text?

def set (hs : Headers) (name : String) (value : List UInt8) : Headers :=
  hs.filter (·.name != name) ++ [⟨name, value⟩]

def setText (hs : Headers) (name value : String) : Headers := hs.set name (encode value)

end Headers

structure Response where
  status : Nat
  headers : Headers
  body : List UInt8
  deriving DecidableEq, Repr

def Response.json (status : Nat) (body : String) : Response :=
  ⟨status, [.ofText "content-type" "application/json"], encode body⟩

end NotebookHost.Http
