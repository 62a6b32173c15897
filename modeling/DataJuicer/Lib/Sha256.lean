import Mathlib.Algebra.Group.Nat.Defs
import Mathlib.Algebra.GroupWithZero.Nat

/-! # SHA-256

The digest of a byte string, as `hashlib.sha256` computes it. Words are naturals below
`2 ^ 32`.
-/

namespace DataJuicer

namespace Sha256

def word (n : Nat) : Nat := n % 2 ^ 32

def rotr (n x : Nat) : Nat := word ((x >>> n) ||| (x <<< (32 - n)))

/-- The fractional parts of the cube roots of the first 64 primes. -/
def roundConstants : List Nat :=
  [0x428a2f98, 0x71374491, 0xb5c0fbcf, 0xe9b5dba5, 0x3956c25b, 0x59f111f1, 0x923f82a4,
   0xab1c5ed5, 0xd807aa98, 0x12835b01, 0x243185be, 0x550c7dc3, 0x72be5d74, 0x80deb1fe,
   0x9bdc06a7, 0xc19bf174, 0xe49b69c1, 0xefbe4786, 0x0fc19dc6, 0x240ca1cc, 0x2de92c6f,
   0x4a7484aa, 0x5cb0a9dc, 0x76f988da, 0x983e5152, 0xa831c66d, 0xb00327c8, 0xbf597fc7,
   0xc6e00bf3, 0xd5a79147, 0x06ca6351, 0x14292967, 0x27b70a85, 0x2e1b2138, 0x4d2c6dfc,
   0x53380d13, 0x650a7354, 0x766a0abb, 0x81c2c92e, 0x92722c85, 0xa2bfe8a1, 0xa81a664b,
   0xc24b8b70, 0xc76c51a3, 0xd192e819, 0xd6990624, 0xf40e3585, 0x106aa070, 0x19a4c116,
   0x1e376c08, 0x2748774c, 0x34b0bcb5, 0x391c0cb3, 0x4ed8aa4a, 0x5b9cca4f, 0x682e6ff3,
   0x748f82ee, 0x78a5636f, 0x84c87814, 0x8cc70208, 0x90befffa, 0xa4506ceb, 0xbef9a3f7,
   0xc67178f2]

structure Registers where
  a : Nat
  b : Nat
  c : Nat
  d : Nat
  e : Nat
  f : Nat
  g : Nat
  h : Nat

/-- The fractional parts of the square roots of the first eight primes. -/
def initial : Registers :=
  ⟨0x6a09e667, 0xbb67ae85, 0x3c6ef372, 0xa54ff53a, 0x510e527f, 0x9b05688c, 0x1f83d9ab,
   0x5be0cd19⟩

def round (r : Registers) (k w : Nat) : Registers :=
  let s1 := rotr 6 r.e ^^^ rotr 11 r.e ^^^ rotr 25 r.e
  let ch := (r.e &&& r.f) ^^^ ((0xffffffff ^^^ r.e) &&& r.g)
  let t1 := r.h + s1 + ch + k + w
  let s0 := rotr 2 r.a ^^^ rotr 13 r.a ^^^ rotr 22 r.a
  let maj := (r.a &&& r.b) ^^^ (r.a &&& r.c) ^^^ (r.b &&& r.c)
  ⟨word (t1 + s0 + maj), r.a, r.b, r.c, word (r.d + t1), r.e, r.f, r.g⟩

/-- The next word of the schedule; `ws` has the previous sixteen, oldest first. -/
def nextWord (ws : List Nat) : Nat :=
  let w15 := ws.getD 1 0
  let w2 := ws.getD 14 0
  let s0 := rotr 7 w15 ^^^ rotr 18 w15 ^^^ (w15 >>> 3)
  let s1 := rotr 17 w2 ^^^ rotr 19 w2 ^^^ (w2 >>> 10)
  word (ws.getD 0 0 + s0 + ws.getD 9 0 + s1)

/-- Runs the rounds; the head of the window is the word of the current round. -/
def rounds : Registers → List Nat → List Nat → Registers
  | r, _, [] => r
  | r, ws, k :: ks => rounds (round r k (ws.getD 0 0)) (ws.tail ++ [nextWord ws]) ks

def bigEndian (bytes : List Nat) : Nat := bytes.foldl (fun n b => 256 * n + b) 0

def chunks (n : Nat) : Nat → List Nat → List (List Nat)
  | 0, _ => []
  | fuel + 1, l => if l.isEmpty then [] else l.take n :: chunks n fuel (l.drop n)

def compress (r : Registers) (block : List Nat) : Registers :=
  let ws := (chunks 4 16 block).map bigEndian
  let s := rounds r ws roundConstants
  ⟨word (r.a + s.a), word (r.b + s.b), word (r.c + s.c), word (r.d + s.d),
   word (r.e + s.e), word (r.f + s.f), word (r.g + s.g), word (r.h + s.h)⟩

def bytesOf (count n : Nat) : List Nat :=
  (List.range count).map fun i => (n >>> (8 * (count - 1 - i))) % 256

/-- The message, a one bit, zeros and the length in bits fill whole blocks. -/
def pad (message : List Nat) : List Nat :=
  let zeros := (119 - message.length % 64) % 64
  message ++ 0x80 :: (List.replicate zeros 0 ++ bytesOf 8 (8 * message.length))

def digest (message : List Nat) : List Nat :=
  let padded := pad message
  let r := (chunks 64 padded.length padded).foldl compress initial
  [r.a, r.b, r.c, r.d, r.e, r.f, r.g, r.h].flatMap (bytesOf 4)

def hexDigit (n : Nat) : Char := Char.ofNat (if n < 10 then 48 + n else 87 + n)

def utf8 (s : String) : List Nat := s.toUTF8.toList.map UInt8.toNat

/-- `hashlib.sha256(s.encode("utf-8")).hexdigest()` -/
def hexdigest (s : String) : String :=
  String.ofList ((digest (utf8 s)).flatMap fun b => [hexDigit (b / 16), hexDigit (b % 16)])

end Sha256

end DataJuicer
