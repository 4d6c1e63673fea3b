import NotebookHost.Json.Basic
import NotebookHost.Text.Hex

namespace NotebookHost.Json

open Text

def escape (c : Char) : List Char :=
  if c = '"' then ['\\', '"']
  else if c = '\\' then ['\\', '\\']
  else if c = '\x08' then ['\\', 'b']
  else if c = '\x0c' then ['\\', 'f']
  else if c = '\n' then ['\\', 'n']
  else if c = '\r' then ['\\', 'r']
  else if c = '\t' then ['\\', 't']
  else if c.toNat < 32 then ['\\', 'u', '0', '0', hexDigit (c.toNat / 16), hexDigit (c.toNat % 16)]
  else [c]

def quoted (s : String) : List Char := '"' :: (s.toList.flatMap escape ++ ['"'])

mutual

def write : Json → List Char
  | .null => ['n', 'u', 'l', 'l']
  | .bool true => ['t', 'r', 'u', 'e']
  | .bool false => ['f', 'a', 'l', 's', 'e']
  | .number literal => literal.toList
  | .string t => quoted (t.getD "")
  | .array [] => ['[', ']']
  | .array (j :: js) => '[' :: (write j ++ (writeItems js ++ [']']))
  | .object [] => ['{', '}']
  | .object ((k, j) :: ms) => '{' :: (quoted (k.getD "") ++ ':' :: (write j ++ (writeMembers ms ++ ['}'])))

def writeItems : List Json → List Char
  | [] => []
  | j :: js => ',' :: (write j ++ writeItems js)

def writeMembers : List (Option String × Json) → List Char
  | [] => []
  | (k, j) :: ms => ',' :: (quoted (k.getD "") ++ ':' :: (write j ++ writeMembers ms))

end

def render (j : Json) : String := String.ofList (write j)

end NotebookHost.Json
