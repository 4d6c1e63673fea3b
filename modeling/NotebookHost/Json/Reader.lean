import NotebookHost.Json.Basic
import NotebookHost.Text.Decimal
import NotebookHost.Text.Hex
import NotebookHost.Text.Split
import NotebookHost.Text.Utf8

namespace NotebookHost.Json

open Text

def isSpace (s : Symbol) : Bool :=
  s == some ' ' || s == some '\t' || s == some '\n' || s == some '\r'

def skipSpace (s : List Symbol) : List Symbol := s.dropWhile isSpace

def isDigitSymbol (s : Symbol) : Bool := s.any isDigit

def readHex4 : List Symbol → Option (Nat × List Symbol)
  | some a :: some b :: some c :: some d :: r => (hexNumber? [a, b, c, d]).map (·, r)
  | _ => none

def readLowSurrogate : List Symbol → Option (Nat × List Symbol)
  | some '\\' :: some 'u' :: r =>
    match readHex4 r with
    | some (n, r) => if 0xdc00 ≤ n ∧ n ≤ 0xdfff then some (n, r) else none
    | none => none
  | _ => none

def simpleEscape (c : Char) : Option Char :=
  if c = '"' ∨ c = '\\' ∨ c = '/' then some c
  else if c = 'b' then some '\x08'
  else if c = 'f' then some '\x0c'
  else if c = 'n' then some '\n'
  else if c = 'r' then some '\r'
  else if c = 't' then some '\t'
  else none

def readEscape : List Symbol → Option (Option Char × List Symbol)
  | some c :: r =>
    if c = 'u' then
      match readHex4 r with
      | none => none
      | some (n, r) =>
        if 0xd800 ≤ n ∧ n ≤ 0xdbff then
          match readLowSurrogate r with
          | some (m, r) => some (some (Char.ofNat (0x10000 + (n - 0xd800) * 0x400 + (m - 0xdc00))), r)
          | none => some (none, r)
        else if 0xdc00 ≤ n ∧ n ≤ 0xdfff then some (none, r)
        else some (some (Char.ofNat n), r)
    else (simpleEscape c).map fun e => (some e, r)
  | _ => none

theorem readHex4_length {s r : List Symbol} {n : Nat} (h : readHex4 s = some (n, r)) :
    r.length < s.length := by
  unfold readHex4 at h
  split at h
  · simp only [Option.map_eq_some_iff, Prod.mk.injEq] at h
    obtain ⟨_, _, _, rfl⟩ := h
    simp; omega
  · simp at h

theorem readLowSurrogate_length {s r : List Symbol} {n : Nat}
    (h : readLowSurrogate s = some (n, r)) : r.length < s.length := by
  unfold readLowSurrogate at h
  split at h
  · split at h
    · next hr =>
      have := readHex4_length hr
      split at h
      · simp only [Option.some.injEq, Prod.mk.injEq] at h
        obtain ⟨_, rfl⟩ := h
        simp; omega
      · simp at h
    · simp at h
  · simp at h

theorem readEscape_length {s r : List Symbol} {c : Option Char}
    (h : readEscape s = some (c, r)) : r.length < s.length := by
  unfold readEscape at h
  split at h
  · split at h
    · split at h
      · simp at h
      · next hr =>
        have hlen := readHex4_length hr
        split at h
        · split at h
          · next hl =>
            have := readLowSurrogate_length hl
            simp only [Option.some.injEq, Prod.mk.injEq] at h
            obtain ⟨_, rfl⟩ := h
            simp; omega
          · simp only [Option.some.injEq, Prod.mk.injEq] at h
            obtain ⟨_, rfl⟩ := h
            simp; omega
        · split at h <;>
          · simp only [Option.some.injEq, Prod.mk.injEq] at h
            obtain ⟨_, rfl⟩ := h
            simp; omega
    · simp only [Option.map_eq_some_iff, Prod.mk.injEq] at h
      obtain ⟨_, _, _, rfl⟩ := h
      simp
  · simp at h

def readString (sofar : Option (List Char)) (s : List Symbol) :
    Option (Option String × List Symbol) :=
  match s with
  | [] => none
  | none :: r => readString none r
  | some c :: r =>
    if c = '"' then some (sofar.map fun t => String.ofList t.reverse, r)
    else if c = '\\' then
      match _h : readEscape r with
      | none => none
      | some (e, r') => readString (e.bind fun c => sofar.map (c :: ·)) r'
    else if c.toNat < 32 then none
    else readString (sofar.map (c :: ·)) r
termination_by s.length
decreasing_by
  · simp
  · have := readEscape_length _h
    simp; omega
  · simp

def readDigits (s : List Symbol) : Option (List Char × List Symbol) :=
  match (s.takeWhile isDigitSymbol).filterMap id with
  | [] => none
  | ds => some (ds, s.dropWhile isDigitSymbol)

def readWhole : List Symbol → Option (List Char × List Symbol)
  | some '0' :: r => some (['0'], r)
  | s => readDigits s

def readFraction : List Symbol → Option (List Char × List Symbol)
  | some '.' :: r => (readDigits r).map fun (ds, r) => ('.' :: ds, r)
  | s => some ([], s)

def readExponent : List Symbol → Option (List Char × List Symbol)
  | some e :: r =>
    if e = 'e' ∨ e = 'E' then
      match r with
      | some c :: r' =>
        if c = '+' ∨ c = '-' then (readDigits r').map fun (ds, r) => (e :: c :: ds, r)
        else (readDigits r).map fun (ds, r) => (e :: ds, r)
      | _ => none
    else some ([], some e :: r)
  | s => some ([], s)

def readUnsigned (s : List Symbol) : Option (List Char × List Symbol) :=
  match readWhole s with
  | none => none
  | some (w, s) =>
    match readFraction s with
    | none => none
    | some (f, s) =>
      match readExponent s with
      | none => none
      | some (e, s) => some (w ++ (f ++ e), s)

def readNumber : List Symbol → Option (List Char × List Symbol)
  | some '-' :: r => (readUnsigned r).map fun (ds, r) => ('-' :: ds, r)
  | s => readUnsigned s

def readAtom (s : List Symbol) : Option (Json × List Symbol) :=
  match dropStart? (symbolsOf "null") s with
  | some r => some (.null, r)
  | none =>
    match dropStart? (symbolsOf "true") s with
    | some r => some (.bool true, r)
    | none =>
      match dropStart? (symbolsOf "false") s with
      | some r => some (.bool false, r)
      | none => (readNumber s).map fun (ds, r) => (.number (String.ofList ds), r)

mutual

def readValue : Nat → List Symbol → Option (Json × List Symbol)
  | 0, _ => none
  | n + 1, s =>
    match skipSpace s with
    | some '"' :: r => (readString (some []) r).map fun (t, r) => (.string t, r)
    | some '[' :: r =>
      match skipSpace r with
      | some ']' :: r => some (.array [], r)
      | r => readItems n [] r
    | some '{' :: r =>
      match skipSpace r with
      | some '}' :: r => some (.object [], r)
      | r => readMembers n [] r
    | r => readAtom r

def readItems : Nat → List Json → List Symbol → Option (Json × List Symbol)
  | 0, _, _ => none
  | n + 1, before, s =>
    match readValue n s with
    | none => none
    | some (j, r) =>
      match skipSpace r with
      | some ',' :: r => readItems n (j :: before) r
      | some ']' :: r => some (.array (j :: before).reverse, r)
      | _ => none

def readMembers : Nat → List (Option String × Json) → List Symbol → Option (Json × List Symbol)
  | 0, _, _ => none
  | n + 1, before, s =>
    match skipSpace s with
    | some '"' :: r =>
      match readString (some []) r with
      | none => none
      | some (key, r) =>
        match skipSpace r with
        | some ':' :: r =>
          match readValue n r with
          | none => none
          | some (j, r) =>
            match skipSpace r with
            | some ',' :: r => readMembers n ((key, j) :: before) r
            | some '}' :: r => some (.object ((key, j) :: before).reverse, r)
            | _ => none
        | _ => none
    | _ => none

end

def read (s : List Symbol) : Option Json :=
  match readValue (2 * s.length + 2) s with
  | some (j, r) => if r.all isSpace then some j else none
  | none => none

def ofString? (s : String) : Option Json := read (symbolsOf s)

def ofBytes? (bytes : List UInt8) : Option Json := read (symbols bytes)

end NotebookHost.Json
