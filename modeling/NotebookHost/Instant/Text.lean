import NotebookHost.Instant.Basic
import NotebookHost.Text.Blank
import NotebookHost.Text.Case
import NotebookHost.Text.Decimal

/-!
Instants as text. They are written as `2024-01-02T03:04:05.120Z`, with no, three, six or nine digits
of the second's fraction, and a sign before a year outside 0 to 9999. The reader takes more: numbers
of fewer digits, blanks between the parts, a blank or a small `t` before the time, any fraction, and
the offset of the clock that showed the time.
-/

namespace NotebookHost.Instant

open Text

def writeYear (y : Int) : List Char :=
  if 0 ≤ y ∧ y ≤ 9999 then padded 4 y.toNat
  else (if y < 0 then '-' else '+') :: padded 4 y.natAbs

def writeFraction (nano : Nat) : List Char :=
  if nano = 0 then []
  else if nano % 1000000 = 0 then '.' :: padded 3 (nano / 1000000)
  else if nano % 1000 = 0 then '.' :: padded 6 (nano / 1000)
  else '.' :: padded 9 nano

def write (t : Instant) : List Char :=
  writeYear t.date.year ++ '-' :: (padded 2 t.date.month ++ '-' :: (padded 2 t.date.day ++
    'T' :: (padded 2 t.hour ++ ':' :: (padded 2 t.minute ++ ':' :: (padded 2 t.second ++
      (writeFraction t.nano ++ ['Z']))))))

def toText (t : Instant) : String := String.ofList (write t)

def readNumber (most : Nat) (s : List Char) : Option (Nat × List Char) :=
  let s := trimStart s
  match (s.take most).takeWhile isDigit with
  | [] => none
  | ds => some (digitsValue ds, s.drop ds.length)

def readAnyNumber (s : List Char) : Option (Nat × List Char) :=
  match s.takeWhile isDigit with
  | [] => none
  | ds => some (digitsValue ds, s.drop ds.length)

def readYear (s : List Char) : Option (Int × List Char) :=
  match trimStart s with
  | '-' :: r => (readAnyNumber r).map fun (n, r) => (-(n : Int), r)
  | '+' :: r => (readAnyNumber r).map fun (n, r) => ((n : Int), r)
  | r => (readNumber 4 r).map fun (n, r) => ((n : Int), r)

def readMark (mark : Char) (s : List Char) : Option (List Char) :=
  match trimStart s with
  | c :: r => if c = mark then some r else none
  | [] => none

def readTimeMark : List Char → Option (List Char)
  | c :: r => if c = 'T' ∨ c = 't' ∨ c = ' ' then some r else none
  | [] => none

def readFraction : List Char → Option (Nat × List Char)
  | '.' :: r =>
    match r.takeWhile isDigit with
    | [] => none
    | ds =>
      some (digitsValue (ds.take 9 ++ List.replicate (9 - ds.length) '0'), r.drop ds.length)
  | s => some (0, s)

def readOffsetDigits : List Char → Option (Nat × List Char)
  | a :: b :: r =>
    if isDigit a && isDigit b then some (digitsValue [a, b], r) else none
  | _ => none

def readOffsetAmount (s : List Char) : Option (Int × List Char) :=
  match readOffsetDigits s with
  | none => none
  | some (hours, r) =>
    match readOffsetDigits (r.dropWhile fun c => c == ':' || isBlank c) with
    | none => none
    | some (minutes, r) =>
      if minutes < 60 ∧ hours < 24 then some ((60 * hours + minutes : Nat), r) else none

def readOffset (s : List Char) : Option (Int × List Char) :=
  let s := trimStart s
  if 3 ≤ s.length ∧ (s.take 3).map Char.toLower = ['u', 't', 'c'] then some (0, s.drop 3)
  else
    match s with
    | c :: r =>
      if c = 'Z' ∨ c = 'z' then some (0, r)
      else if c = '+' then readOffsetAmount r
      else if c = '-' ∨ c = '\u2212' then (readOffsetAmount r).map fun (n, r) => (-n, r)
      else none
    | [] => none

def read (s : List Char) : Option Instant := do
  let (year, s) ← readYear s
  let s ← readMark '-' s
  let (month, s) ← readNumber 2 s
  let s ← readMark '-' s
  let (day, s) ← readNumber 2 s
  let s ← readTimeMark s
  let (hour, s) ← readNumber 2 s
  let s ← readMark ':' s
  let (minute, s) ← readNumber 2 s
  let s ← readMark ':' s
  let (second, s) ← readNumber 2 s
  let (nano, s) ← readFraction s
  let (offset, s) ← readOffset s
  if (trimStart s).isEmpty then
    let date ← Date.of? year month day
    let shown ← Instant.of? date hour minute second nano
    shown.ofClock? offset
  else none

def ofText? (s : String) : Option Instant := read s.toList

end NotebookHost.Instant
