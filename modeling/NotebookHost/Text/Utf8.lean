/-!
Reading bytes as UTF-8 without giving up: a byte that is no part of a well-formed character is kept
as a symbol of its own, so that a reader can pass over it where text is not used.
-/

namespace NotebookHost.Text

abbrev Symbol := Option Char

def isTail (b : UInt8) : Bool := 0x80 ≤ b && b ≤ 0xbf

def low (b : UInt8) : Nat := b.toNat % 64

/-- The character at the front and how many more bytes it takes after the first. -/
def frontChar? (b : UInt8) (rest : List UInt8) : Option (Char × Nat) :=
  if b < 0x80 then some (Char.ofNat b.toNat, 0)
  else
    match rest with
    | c :: rest =>
      if 0xc2 ≤ b && b ≤ 0xdf && isTail c then
        some (Char.ofNat (b.toNat % 32 * 64 + low c), 1)
      else
        match rest with
        | d :: rest =>
          let third := isTail c && isTail d && 0xe0 ≤ b && b ≤ 0xef &&
            (b != 0xe0 || 0xa0 ≤ c) && (b != 0xed || c ≤ 0x9f)
          if third then some (Char.ofNat (b.toNat % 16 * 4096 + low c * 64 + low d), 2)
          else
            match rest with
            | e :: _ =>
              let fourth := isTail c && isTail d && isTail e && 0xf0 ≤ b && b ≤ 0xf4 &&
                (b != 0xf0 || 0x90 ≤ c) && (b != 0xf4 || c ≤ 0x8f)
              if fourth then
                some (Char.ofNat (b.toNat % 8 * 262144 + low c * 4096 + low d * 64 + low e), 3)
              else none
            | [] => none
        | [] => none
    | [] => none

def symbolsFrom (seen : List Symbol) : List UInt8 → List Symbol
  | [] => seen.reverse
  | b :: rest =>
    match frontChar? b rest with
    | some (c, more) => symbolsFrom (some c :: seen) (rest.drop more)
    | none => symbolsFrom (none :: seen) rest
termination_by bytes => bytes.length
decreasing_by
  · simp only [List.length_drop, List.length_cons]
    omega
  · exact Nat.lt_succ_self _

def symbols (bytes : List UInt8) : List Symbol := symbolsFrom [] bytes

def decode? (bytes : List UInt8) : Option String :=
  ((symbols bytes).mapM id).map String.ofList

def encode (s : String) : List UInt8 := s.toUTF8.data.toList

def symbolsOf (s : String) : List Symbol := s.toList.map some

end NotebookHost.Text
