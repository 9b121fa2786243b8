import HomePairing.Bytes.Number

/-!
# SHA-512

The hash behind every proof, every derived key and every signature: the message
is padded to a whole number of 128-byte blocks, each block is expanded to
eighty words, and eighty rounds stir them into eight chaining words.
-/

namespace HomePairing.Sha512

def blockSize : Nat := 128

def digestSize : Nat := 64

/-- The eight chaining words. -/
structure Chain where
  a : UInt64
  b : UInt64
  c : UInt64
  d : UInt64
  e : UInt64
  f : UInt64
  g : UInt64
  h : UInt64

/-- Where every message starts: the fraction bits of the square roots of the
first eight primes. -/
def initial : Chain where
  a := 0x6a09e667f3bcc908
  b := 0xbb67ae8584caa73b
  c := 0x3c6ef372fe94f82b
  d := 0xa54ff53a5f1d36f1
  e := 0x510e527fade682d1
  f := 0x9b05688c2b3e6c1f
  g := 0x1f83d9abfb41bd6b
  h := 0x5be0cd19137e2179

/-- The eighty round constants: the fraction bits of the cube roots of the first
eighty primes. -/
def roundConstants : List UInt64 :=
  [0x428a2f98d728ae22, 0x7137449123ef65cd, 0xb5c0fbcfec4d3b2f, 0xe9b5dba58189dbbc,
   0x3956c25bf348b538, 0x59f111f1b605d019, 0x923f82a4af194f9b, 0xab1c5ed5da6d8118,
   0xd807aa98a3030242, 0x12835b0145706fbe, 0x243185be4ee4b28c, 0x550c7dc3d5ffb4e2,
   0x72be5d74f27b896f, 0x80deb1fe3b1696b1, 0x9bdc06a725c71235, 0xc19bf174cf692694,
   0xe49b69c19ef14ad2, 0xefbe4786384f25e3, 0x0fc19dc68b8cd5b5, 0x240ca1cc77ac9c65,
   0x2de92c6f592b0275, 0x4a7484aa6ea6e483, 0x5cb0a9dcbd41fbd4, 0x76f988da831153b5,
   0x983e5152ee66dfab, 0xa831c66d2db43210, 0xb00327c898fb213f, 0xbf597fc7beef0ee4,
   0xc6e00bf33da88fc2, 0xd5a79147930aa725, 0x06ca6351e003826f, 0x142929670a0e6e70,
   0x27b70a8546d22ffc, 0x2e1b21385c26c926, 0x4d2c6dfc5ac42aed, 0x53380d139d95b3df,
   0x650a73548baf63de, 0x766a0abb3c77b2a8, 0x81c2c92e47edaee6, 0x92722c851482353b,
   0xa2bfe8a14cf10364, 0xa81a664bbc423001, 0xc24b8b70d0f89791, 0xc76c51a30654be30,
   0xd192e819d6ef5218, 0xd69906245565a910, 0xf40e35855771202a, 0x106aa07032bbd1b8,
   0x19a4c116b8d2d0c8, 0x1e376c085141ab53, 0x2748774cdf8eeb99, 0x34b0bcb5e19b48a8,
   0x391c0cb3c5c95a63, 0x4ed8aa4ae3418acb, 0x5b9cca4f7763e373, 0x682e6ff3d6b2b8a3,
   0x748f82ee5defb2fc, 0x78a5636f43172f60, 0x84c87814a1f0ab72, 0x8cc702081a6439ec,
   0x90befffa23631e28, 0xa4506cebde82bde9, 0xbef9a3f7b2c67915, 0xc67178f2e372532b,
   0xca273eceea26619c, 0xd186b8c721c0c207, 0xeada7dd6cde0eb1e, 0xf57d4f7fee6ed178,
   0x06f067aa72176fba, 0x0a637dc5a2c898a6, 0x113f9804bef90dae, 0x1b710b35131c471b,
   0x28db77f523047d84, 0x32caab7b40c72493, 0x3c9ebe0a15c9bebc, 0x431d67c49c100d4c,
   0x4cc5d4becb3e42b6, 0x597f299cfc657e2a, 0x5fcb6fab3ad6faec, 0x6c44198c4a475817]

def rotateRight (x : UInt64) (n : UInt64) : UInt64 :=
  (x >>> n) ||| (x <<< (64 - n))

/-- One round, with its message word and its constant. -/
def round (s : Chain) (word constant : UInt64) : Chain :=
  let stirE := rotateRight s.e 14 ^^^ rotateRight s.e 18 ^^^ rotateRight s.e 41
  let choice := (s.e &&& s.f) ^^^ (~~~s.e &&& s.g)
  let first := s.h + stirE + choice + constant + word
  let stirA := rotateRight s.a 28 ^^^ rotateRight s.a 34 ^^^ rotateRight s.a 39
  let majority := (s.a &&& s.b) ^^^ (s.a &&& s.c) ^^^ (s.b &&& s.c)
  { a := first + stirA + majority, b := s.a, c := s.b, d := s.c,
    e := s.d + first, f := s.e, g := s.f, h := s.g }

/-- The last sixteen words of a message schedule, oldest first. -/
structure Window where
  w0 : UInt64
  w1 : UInt64
  w2 : UInt64
  w3 : UInt64
  w4 : UInt64
  w5 : UInt64
  w6 : UInt64
  w7 : UInt64
  w8 : UInt64
  w9 : UInt64
  w10 : UInt64
  w11 : UInt64
  w12 : UInt64
  w13 : UInt64
  w14 : UInt64
  w15 : UInt64

def Window.next (w : Window) : UInt64 :=
  let near := rotateRight w.w14 19 ^^^ rotateRight w.w14 61 ^^^ (w.w14 >>> 6)
  let far := rotateRight w.w1 1 ^^^ rotateRight w.w1 8 ^^^ (w.w1 >>> 7)
  near + w.w9 + far + w.w0

def Window.slide (w : Window) : Window :=
  ⟨w.w1, w.w2, w.w3, w.w4, w.w5, w.w6, w.w7, w.w8, w.w9, w.w10, w.w11, w.w12, w.w13, w.w14,
    w.w15, w.next⟩

/-- The rounds that are left, each with the oldest word of the sliding window. -/
def rounds (s : Chain) (w : Window) : List UInt64 → Chain
  | [] => s
  | constant :: rest => rounds (round s w.w0 constant) w.slide rest

/-- Word `i` of a block, most significant byte first. -/
def word (block : Bytes) (i : Nat) : UInt64 :=
  ((block.drop (8 * i)).take 8).foldl (fun n b => (n <<< 8) ||| b.toUInt64) 0

/-- Stir one 128-byte block into the chaining words. -/
def compress (s : Chain) (block : Bytes) : Chain :=
  let w : Window :=
    ⟨word block 0, word block 1, word block 2, word block 3, word block 4, word block 5,
      word block 6, word block 7, word block 8, word block 9, word block 10, word block 11,
      word block 12, word block 13, word block 14, word block 15⟩
  let t := rounds s w roundConstants
  { a := s.a + t.a, b := s.b + t.b, c := s.c + t.c, d := s.d + t.d,
    e := s.e + t.e, f := s.f + t.f, g := s.g + t.g, h := s.h + t.h }

/-- The message, a one bit, zeros, and the message's length in bits as sixteen
bytes: a whole number of blocks. -/
def padded (message : Bytes) : Bytes :=
  let zeros := (239 - message.length % blockSize) % blockSize
  message ++ 0x80 :: (List.replicate zeros 0 ++ Bytes.ofNatBE 16 (8 * message.length))

/-- Stir in `count` blocks, one after another. -/
def absorb (s : Chain) (message : Bytes) : (count : Nat) → Chain
  | 0 => s
  | count + 1 => absorb (compress s (message.take blockSize)) (message.drop blockSize) count

/-- A chaining word as eight bytes, most significant first. -/
def wordBytes (x : UInt64) : Bytes :=
  [(x >>> 56).toUInt8, (x >>> 48).toUInt8, (x >>> 40).toUInt8, (x >>> 32).toUInt8,
   (x >>> 24).toUInt8, (x >>> 16).toUInt8, (x >>> 8).toUInt8, x.toUInt8]

def Chain.bytes (s : Chain) : Bytes :=
  wordBytes s.a ++ wordBytes s.b ++ wordBytes s.c ++ wordBytes s.d ++
    wordBytes s.e ++ wordBytes s.f ++ wordBytes s.g ++ wordBytes s.h

def digest (message : Bytes) : Bytes :=
  let blocks := padded message
  (absorb initial blocks (blocks.length / blockSize)).bytes

@[simp] theorem length_digest (message : Bytes) : (digest message).length = digestSize := rfl

end HomePairing.Sha512
