import NotebookHost.Text.Hex
import NotebookHost.Text.Split
import NotebookHost.Toml.Blank

namespace NotebookHost.Toml

open Text

def inBasic (c : Char) : Bool :=
  isBlank c || c.toNat = 0x21 || (0x23 ≤ c.toNat && c.toNat ≤ 0x5b) ||
    (0x5d ≤ c.toNat && c.toNat ≤ 0x7e) || isForeign c

def inLiteral (c : Char) : Bool :=
  c == '\t' || (0x20 ≤ c.toNat && c.toNat ≤ 0x26) || (0x28 ≤ c.toNat && c.toNat ≤ 0x7e) ||
    isForeign c

def charOfCode? (n : Nat) : Option Char := if n.isValidChar then some (Char.ofNat n) else none

def readCode (digits : Nat) (s : List Char) : Option (Char × List Char) :=
  if (s.take digits).length = digits ∧ 0 < digits then
    ((hexNumber? (s.take digits)).bind charOfCode?).map (·, s.drop digits)
  else none

def simpleEscape (c : Char) : Option Char :=
  if c = '"' ∨ c = '\\' then some c
  else if c = 'b' then some '\x08'
  else if c = 'f' then some '\x0c'
  else if c = 'n' then some '\n'
  else if c = 'r' then some '\r'
  else if c = 't' then some '\t'
  else none

def readEscape : List Char → Option (Char × List Char)
  | [] => none
  | c :: r =>
    if c = 'u' then readCode 4 r
    else if c = 'U' then readCode 8 r
    else (simpleEscape c).map (·, r)

theorem readCode_length {n : Nat} {s r : List Char} {c : Char} (h : readCode n s = some (c, r)) :
    r.length ≤ s.length := by
  unfold readCode at h
  split at h
  · simp only [Option.map_eq_some_iff, Prod.mk.injEq] at h
    obtain ⟨_, _, _, rfl⟩ := h
    simp
  · simp at h

theorem readEscape_length {s r : List Char} {c : Char} (h : readEscape s = some (c, r)) :
    r.length < s.length := by
  unfold readEscape at h
  split at h
  · simp at h
  · split at h
    · exact Nat.lt_succ_of_le (readCode_length h)
    · split at h
      · exact Nat.lt_succ_of_le (readCode_length h)
      · simp only [Option.map_eq_some_iff, Prod.mk.injEq] at h
        obtain ⟨_, _, _, rfl⟩ := h
        simp

def readBasic (sofar : List Char) (s : List Char) : Option (String × List Char) :=
  match s with
  | [] => none
  | c :: r =>
    if c = '"' then some (String.ofList sofar.reverse, r)
    else if c = '\\' then
      match _h : readEscape r with
      | none => none
      | some (e, r') => readBasic (e :: sofar) r'
    else if inBasic c then readBasic (c :: sofar) r
    else none
termination_by s.length
decreasing_by
  · have := readEscape_length _h
    simp; omega
  · simp

def readLiteral (s : List Char) : Option (String × List Char) :=
  match s.dropWhile inLiteral with
  | '\x27' :: r => some (String.ofList (s.takeWhile inLiteral), r)
  | _ => none

def dropFirstLineEnd (s : List Char) : List Char := (lineEnd? s).getD s

def continuation? (s : List Char) : Option (List Char) :=
  (lineEnd? (skipBlanks s)).map fun r => r.dropWhile fun c => isBlank c || c == '\n' || c == '\r'

theorem continuation?_length {s r : List Char} (h : continuation? s = some r) :
    r.length < s.length := by
  simp only [continuation?, Option.map_eq_some_iff] at h
  obtain ⟨t, ht, rfl⟩ := h
  have h₁ := lineEnd?_length ht
  have h₂ := skipBlanks_length s
  have h₃ := (List.dropWhile_sublist (fun c => isBlank c || c == '\n' || c == '\r') (l := t)).length_le
  omega

def readBasicLines (sofar : List Char) (s : List Char) : Option (String × List Char) :=
  match _hs : s with
  | [] => none
  | c :: r =>
    if c = '"' then
      let quotes := 1 + (r.takeWhile (· == '"')).length
      let after := r.dropWhile (· == '"')
      if quotes < 3 then readBasicLines (List.replicate quotes '"' ++ sofar) after
      else if quotes ≤ 5 then
        some (String.ofList ((List.replicate (quotes - 3) '"' ++ sofar).reverse), after)
      else none
    else if c = '\\' then
      match _hc : continuation? r with
      | some r' => readBasicLines sofar r'
      | none =>
        match _he : readEscape r with
        | none => none
        | some (e, r') => readBasicLines (e :: sofar) r'
    else if inBasic c then readBasicLines (c :: sofar) r
    else
      match _hl : lineEnd? s with
      | some r' => readBasicLines ('\n' :: sofar) r'
      | none => none
termination_by s.length
decreasing_by
  · have := (List.dropWhile_sublist (· == '"') (l := r)).length_le
    simp; omega
  · have := continuation?_length _hc
    simp; omega
  · have := readEscape_length _he
    simp; omega
  · simp
  · have := lineEnd?_length _hl
    subst _hs
    exact this

def readLiteralLines (sofar : List Char) (s : List Char) : Option (String × List Char) :=
  match _hs : s with
  | [] => none
  | c :: r =>
    if c = '\x27' then
      let quotes := 1 + (r.takeWhile (· == '\x27')).length
      let after := r.dropWhile (· == '\x27')
      if quotes < 3 then readLiteralLines (List.replicate quotes '\x27' ++ sofar) after
      else if quotes ≤ 5 then
        some (String.ofList ((List.replicate (quotes - 3) '\x27' ++ sofar).reverse), after)
      else none
    else if inLiteral c then readLiteralLines (c :: sofar) r
    else
      match _hl : lineEnd? s with
      | some r' => readLiteralLines ('\n' :: sofar) r'
      | none => none
termination_by s.length
decreasing_by
  · have := (List.dropWhile_sublist (· == '\x27') (l := r)).length_le
    simp; omega
  · simp
  · have := lineEnd?_length _hl
    subst _hs
    exact this

def readText (s : List Char) : Option (String × List Char) :=
  match dropStart? ['"', '"', '"'] s with
  | some r => readBasicLines [] (dropFirstLineEnd r)
  | none =>
    match dropStart? ['\x27', '\x27', '\x27'] s with
    | some r => readLiteralLines [] (dropFirstLineEnd r)
    | none =>
      match s with
      | '"' :: r => readBasic [] r
      | '\x27' :: r => readLiteral r
      | _ => none

end NotebookHost.Toml
