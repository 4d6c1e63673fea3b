import NotebookHost.Text.Decimal
import NotebookHost.Text.Hex
import NotebookHost.Text.Split
import NotebookHost.Instant.Date
import NotebookHost.Toml.Value

namespace NotebookHost.Toml

open Text

def readRun (digit : Char → Bool) : List Char → Option (List Char × List Char)
  | c :: r =>
    if digit c then
      match r with
      | '_' :: r' => (readRun digit r').map fun (ds, s) => (c :: ds, s)
      | d :: r' =>
        if digit d then (readRun digit (d :: r')).map fun (ds, s) => (c :: ds, s)
        else some ([c], r)
      | [] => some ([c], [])
    else none
  | [] => none

structure Decimal where
  negative : Bool
  digits : List Char

def readDecimal (s : List Char) : Option (Decimal × List Char) :=
  let (negative, r) := match s with
    | '+' :: r => (false, r)
    | '-' :: r => (true, r)
    | r => (false, r)
  match r with
  | '0' :: r => some (⟨negative, ['0']⟩, r)
  | r => (readRun isDigit r).map fun (ds, r) => (⟨negative, ds⟩, r)

def Decimal.value (d : Decimal) : Int :=
  if d.negative then -(digitsValue d.digits : Int) else digitsValue d.digits

def readFraction : List Char → Option (List Char × List Char)
  | '.' :: r => readRun isDigit r
  | _ => none

def readExponent : List Char → Option (Decimal × List Char)
  | c :: r =>
    if c = 'e' ∨ c = 'E' then
      let (negative, r) := match r with
        | '+' :: r => (false, r)
        | '-' :: r => (true, r)
        | r => (false, r)
      (readRun isDigit r).map fun (ds, r) => (⟨negative, ds⟩, r)
    else none
  | [] => none

def floatLimit : Nat := 1 <<< 1024 - 1 <<< 970

def isInfinite (digits : List Char) (exponent : Int) : Bool :=
  let m := digitsValue digits
  let size : Int := (digitsOf m).length + exponent
  if m = 0 ∨ size < 309 then false
  else if 309 < size then true
  else if 0 ≤ exponent then floatLimit ≤ m * Nat.pow 10 exponent.toNat
  else floatLimit * Nat.pow 10 (-exponent).toNat ≤ m

def beginsExponent : List Char → Bool
  | c :: _ => c == 'e' || c == 'E'
  | [] => false

def readFloatTail (whole : Decimal) (s : List Char) : Option (Value × List Char) :=
  match s with
  | '.' :: _ => do
    let (fraction, r) ← readFraction s
    if beginsExponent r then
      let (e, r) ← readExponent r
      finish (whole.digits ++ fraction) (e.value - fraction.length) r
    else finish (whole.digits ++ fraction) (-fraction.length) r
  | _ =>
    if beginsExponent s then do
      let (e, r) ← readExponent s
      finish whole.digits e.value r
    else if inRange whole.value then some (.integer whole.value, s)
    else none
where
  finish (digits : List Char) (exponent : Int) (r : List Char) : Option (Value × List Char) :=
    if !whole.negative && isInfinite digits exponent then none else some (.float, r)

def readBased (base : Nat) (s : List Char) : Option (Value × List Char) := do
  let (ds, r) ← readRun (fun c => (hexValue? c).any (· < base)) s
  let n := ds.foldl (fun n c => base * n + (hexValue? c).getD 0) 0
  if inRange n then some (.integer n, r) else none

def readTwoDigits : List Char → Option (Nat × List Char)
  | a :: b :: r => if isDigit a && isDigit b then some (digitsValue [a, b], r) else none
  | _ => none

def readColon : List Char → Option (List Char)
  | ':' :: r => some r
  | _ => none

def readAfterHour (hour : Nat) (s : List Char) : Option (List Char) := do
  let s ← readColon s
  let (minute, s) ← readTwoDigits s
  let s ← readColon s
  let (second, s) ← readTwoDigits s
  if 23 < hour ∨ 59 < minute ∨ 60 < second then none
  else
    match s with
    | '.' :: r => if (r.takeWhile isDigit).isEmpty then none else some (r.dropWhile isDigit)
    | _ => some s

def readOffset : List Char → Option (List Char)
  | c :: r =>
    if c = 'Z' ∨ c = 'z' then some r
    else if c = '+' ∨ c = '-' then do
      let (hour, r) ← readTwoDigits r
      let r ← readColon r
      let (minute, r) ← readTwoDigits r
      if 23 < hour ∨ 59 < minute then none else some r
    else some (c :: r)
  | [] => some []

def isTimeMark (c : Char) : Bool := c == 'T' || c == 't' || c == ' '

def readAfterYear (year : Nat) (s : List Char) : Option (List Char) := do
  let (month, s) ← readTwoDigits s
  let s ← match s with
    | '-' :: r => some r
    | _ => none
  let (day, s) ← readTwoDigits s
  if month < 1 ∨ 12 < month ∨ day < 1 ∨ Calendar.daysIn year month < day then none
  else
    match s with
    | c :: r =>
      if isTimeMark c then
        match readTwoDigits r with
        | some (hour, ':' :: r) => (readAfterHour hour (':' :: r)).bind readOffset
        | _ => some s
      else some s
    | [] => some []

def readNumber (s : List Char) : Option (Value × List Char) :=
  match s with
  | a :: b :: c :: d :: '-' :: r =>
    if [a, b, c, d].all isDigit then
      (readAfterYear (digitsValue [a, b, c, d]) r).map (Value.time, ·)
    else plain s
  | a :: b :: ':' :: r =>
    if isDigit a && isDigit b then
      (readAfterHour (digitsValue [a, b]) (':' :: r)).map (Value.time, ·)
    else plain s
  | _ => plain s
where
  plain (s : List Char) : Option (Value × List Char) :=
    match s with
    | '0' :: 'x' :: r => readBased 16 r
    | '0' :: 'o' :: r => readBased 8 r
    | '0' :: 'b' :: r => readBased 2 r
    | _ =>
      match readDecimal s with
      | some (whole, r) => readFloatTail whole r
      | none => special (match s with
        | '+' :: r => r
        | '-' :: r => r
        | r => r)
  special (s : List Char) : Option (Value × List Char) :=
    match dropStart? ['i', 'n', 'f'] s with
    | some r => some (.float, r)
    | none => (dropStart? ['n', 'a', 'n'] s).map (Value.float, ·)

end NotebookHost.Toml
