namespace NotebookHost.Toml

def isBlank (c : Char) : Bool := c == ' ' || c == '\t'

def skipBlanks (s : List Char) : List Char := s.dropWhile isBlank

def isForeign (c : Char) : Bool := 0x80 ≤ c.toNat

def inComment (c : Char) : Bool := c == '\t' || (0x20 ≤ c.toNat && c.toNat ≤ 0x7e) || isForeign c

def lineEnd? : List Char → Option (List Char)
  | '\n' :: r => some r
  | '\r' :: '\n' :: r => some r
  | _ => none

def skipComment : List Char → List Char
  | '#' :: r => r.dropWhile inComment
  | s => s

def restOfLine? (s : List Char) : Option (List Char) :=
  match skipComment (skipBlanks s) with
  | [] => some []
  | r => lineEnd? r

theorem lineEnd?_length {s r : List Char} (h : lineEnd? s = some r) : r.length < s.length := by
  unfold lineEnd? at h
  split at h
  · cases h
    exact Nat.lt_succ_self _
  · cases h
    simp only [List.length_cons]
    omega
  · cases h

theorem skipBlanks_length (s : List Char) : (skipBlanks s).length ≤ s.length :=
  (List.dropWhile_sublist _).length_le

def skipLines (s : List Char) : List Char :=
  match _h : s with
  | [] => []
  | c :: r =>
    if isBlank c then skipLines r
    else if c = '#' then skipLines (r.dropWhile inComment)
    else
      match _he : lineEnd? s with
      | some r' => skipLines r'
      | none => s
termination_by s.length
decreasing_by
  · simp
  · have := (List.dropWhile_sublist inComment (l := r)).length_le
    simp; omega
  · have := lineEnd?_length _he
    subst _h
    exact this

end NotebookHost.Toml
