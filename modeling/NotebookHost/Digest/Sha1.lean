namespace NotebookHost.Digest.Sha1

structure State where
  a : UInt32
  b : UInt32
  c : UInt32
  d : UInt32
  e : UInt32
  deriving DecidableEq, Repr

def start : State := ⟨0x67452301, 0xefcdab89, 0x98badcfe, 0x10325476, 0xc3d2e1f0⟩

def rotate (n x : UInt32) : UInt32 := (x <<< n) ||| (x >>> (32 - n))

def bytesOf (width n : Nat) : List UInt8 :=
  (List.range width).reverse.map fun i => UInt8.ofNat (n >>> (8 * i))

def zeros (size : Nat) : Nat := (119 - size % 64) % 64

def pad (message : List UInt8) : List UInt8 :=
  message ++ 0x80 :: (List.replicate (zeros message.length) 0 ++ bytesOf 8 (8 * message.length))

def words : List UInt8 → List UInt32
  | a :: b :: c :: d :: r =>
    (a.toUInt32 <<< 24 ||| b.toUInt32 <<< 16 ||| c.toUInt32 <<< 8 ||| d.toUInt32) :: words r
  | _ => []

def extend : Nat → List UInt32 → List UInt32
  | 0, ws => ws
  | n + 1, ws =>
    let word (i : Nat) := ws.getD i 0
    extend n (rotate 1 (word 2 ^^^ word 7 ^^^ word 13 ^^^ word 15) :: ws)

def schedule (block : List UInt32) : List UInt32 := (extend 64 block.reverse).reverse

def choose (s : State) (round : Nat) : UInt32 :=
  if round < 20 then (s.b &&& s.c) ||| (~~~s.b &&& s.d)
  else if round < 40 then s.b ^^^ s.c ^^^ s.d
  else if round < 60 then (s.b &&& s.c) ||| (s.b &&& s.d) ||| (s.c &&& s.d)
  else s.b ^^^ s.c ^^^ s.d

def constant (round : Nat) : UInt32 :=
  if round < 20 then 0x5a827999
  else if round < 40 then 0x6ed9eba1
  else if round < 60 then 0x8f1bbcdc
  else 0xca62c1d6

def turn (s : State) (word : UInt32 × Nat) : State :=
  ⟨rotate 5 s.a + choose s word.2 + s.e + constant word.2 + word.1, s.a, rotate 30 s.b, s.c, s.d⟩

def compress (s : State) (block : List UInt32) : State :=
  let t := (schedule block).zipIdx.foldl turn s
  ⟨s.a + t.a, s.b + t.b, s.c + t.c, s.d + t.d, s.e + t.e⟩

def compressAll (s : State) (ws : List UInt32) : State :=
  match ws with
  | [] => s
  | w :: r => compressAll (compress s ((w :: r).take 16)) ((w :: r).drop 16)
termination_by ws.length
decreasing_by
  simp only [List.length_drop, List.length_cons]
  omega

def digest (message : List UInt8) : List UInt8 :=
  let s := compressAll start (words (pad message))
  [s.a, s.b, s.c, s.d, s.e].flatMap fun w => bytesOf 4 w.toNat

end NotebookHost.Digest.Sha1
