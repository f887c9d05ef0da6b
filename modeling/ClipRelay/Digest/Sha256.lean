import ClipRelay.Text.Utf8

/-!
# SHA-256

The hash of FIPS 180-4 over lists of bytes: the message is padded to blocks of 64 bytes, each block
is expanded to 64 words and folded into the eight words of the state.
-/

namespace ClipRelay.Sha256

open Text

abbrev Word := UInt32

def rotr (x : Word) (n : Word) : Word := (x >>> n) ||| (x <<< (32 - n))

/-- The first 32 bits of the fractional parts of the cube roots of the first 64 primes. -/
def roundConstants : List Word :=
  [0x428a2f98, 0x71374491, 0xb5c0fbcf, 0xe9b5dba5, 0x3956c25b, 0x59f111f1, 0x923f82a4, 0xab1c5ed5,
    0xd807aa98, 0x12835b01, 0x243185be, 0x550c7dc3, 0x72be5d74, 0x80deb1fe, 0x9bdc06a7, 0xc19bf174,
    0xe49b69c1, 0xefbe4786, 0x0fc19dc6, 0x240ca1cc, 0x2de92c6f, 0x4a7484aa, 0x5cb0a9dc, 0x76f988da,
    0x983e5152, 0xa831c66d, 0xb00327c8, 0xbf597fc7, 0xc6e00bf3, 0xd5a79147, 0x06ca6351, 0x14292967,
    0x27b70a85, 0x2e1b2138, 0x4d2c6dfc, 0x53380d13, 0x650a7354, 0x766a0abb, 0x81c2c92e, 0x92722c85,
    0xa2bfe8a1, 0xa81a664b, 0xc24b8b70, 0xc76c51a3, 0xd192e819, 0xd6990624, 0xf40e3585, 0x106aa070,
    0x19a4c116, 0x1e376c08, 0x2748774c, 0x34b0bcb5, 0x391c0cb3, 0x4ed8aa4a, 0x5b9cca4f, 0x682e6ff3,
    0x748f82ee, 0x78a5636f, 0x84c87814, 0x8cc70208, 0x90befffa, 0xa4506ceb, 0xbef9a3f7, 0xc67178f2]

structure State where
  a : Word
  b : Word
  c : Word
  d : Word
  e : Word
  f : Word
  g : Word
  h : Word

/-- The first 32 bits of the fractional parts of the square roots of the first eight primes. -/
def start : State :=
  ⟨0x6a09e667, 0xbb67ae85, 0x3c6ef372, 0xa54ff53a, 0x510e527f, 0x9b05688c, 0x1f83d9ab, 0x5be0cd19⟩

/-- The bytes of `n`, most significant first, `count` of them. -/
def bigEndian (count n : Nat) : Bytes :=
  (List.range count).reverse.map fun i => UInt8.ofNat (n >>> (8 * i))

/-- The message, a one bit, zeros, and the length in bits, to a multiple of 64 bytes. -/
def pad (message : Bytes) : Bytes :=
  let used := (message.length + 9) % 64
  message ++ 0x80 :: List.replicate ((64 - used) % 64) 0 ++ bigEndian 8 (8 * message.length)

/-- The big-endian words of bytes. -/
def words : Bytes → List Word
  | a :: b :: c :: d :: rest =>
    ((a.toUInt32 <<< 24) ||| (b.toUInt32 <<< 16) ||| (c.toUInt32 <<< 8) ||| d.toUInt32)
      :: words rest
  | _ => []

/-- Appends `count` words to a schedule whose last sixteen words are in reverse order in front. -/
def extend : Nat → List Word → List Word
  | 0, ws => ws
  | count + 1, ws =>
    let word (i : Nat) := ws.getD i 0
    let s0 := rotr (word 14) 7 ^^^ rotr (word 14) 18 ^^^ (word 14 >>> 3)
    let s1 := rotr (word 1) 17 ^^^ rotr (word 1) 19 ^^^ (word 1 >>> 10)
    extend count ((word 15 + s0 + word 6 + s1) :: ws)

/-- One round with its constant and its word of the schedule. -/
def round (s : State) (k : Word × Word) : State :=
  let s1 := rotr s.e 6 ^^^ rotr s.e 11 ^^^ rotr s.e 25
  let ch := (s.e &&& s.f) ^^^ (~~~s.e &&& s.g)
  let t1 := s.h + s1 + ch + k.1 + k.2
  let s0 := rotr s.a 2 ^^^ rotr s.a 13 ^^^ rotr s.a 22
  let maj := (s.a &&& s.b) ^^^ (s.a &&& s.c) ^^^ (s.b &&& s.c)
  ⟨t1 + s0 + maj, s.a, s.b, s.c, s.d + t1, s.e, s.f, s.g⟩

/-- Folds a block of sixteen words into the state. -/
def block (s : State) (ws : List Word) : State :=
  let t := (roundConstants.zip (extend 48 ws.reverse).reverse).foldl round s
  ⟨s.a + t.a, s.b + t.b, s.c + t.c, s.d + t.d, s.e + t.e, s.f + t.f, s.g + t.g, s.h + t.h⟩

/-- Folds words into the state, sixteen at a time; the first argument bounds the blocks. -/
def blocks : Nat → State → List Word → State
  | 0, s, _ => s
  | count + 1, s, ws => if ws.isEmpty then s else blocks count (block s (ws.take 16)) (ws.drop 16)

/-- The 32 bytes of the hash. -/
def digest (message : Bytes) : Bytes :=
  let ws := words (pad message)
  let s := blocks (ws.length / 16) start ws
  [s.a, s.b, s.c, s.d, s.e, s.f, s.g, s.h].flatMap fun w => bigEndian 4 w.toNat

/-- Two hexadecimal digits for each byte. -/
def hex (bs : Bytes) : String :=
  String.ofList (bs.flatMap fun b => [Nat.digitChar (b.toNat / 16), Nat.digitChar (b.toNat % 16)])

end ClipRelay.Sha256
