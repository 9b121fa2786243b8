import HomePairing.Bytes.Block
import HomePairing.Cipher.Nonce

/-!
# The ChaCha20 stream cipher

A block of key stream is sixteen words: four constants, the key, a block counter
and the nonce, stirred by twenty rounds and added to themselves. Text is masked
with the stream, so masking twice gives the text back (`mask_mask`).

This stands for the cipher in the library `chacha20poly1305`, which refuses a text
for which the counter would run over. Here there is no such limit, and the counter
starts again at zero.
-/

namespace HomePairing.ChaCha20

/-- The sixteen words of a block, row by row. -/
structure Words where
  x0 : UInt32
  x1 : UInt32
  x2 : UInt32
  x3 : UInt32
  x4 : UInt32
  x5 : UInt32
  x6 : UInt32
  x7 : UInt32
  x8 : UInt32
  x9 : UInt32
  x10 : UInt32
  x11 : UInt32
  x12 : UInt32
  x13 : UInt32
  x14 : UInt32
  x15 : UInt32

def rotateLeft (x n : UInt32) : UInt32 :=
  (x <<< n) ||| (x >>> (32 - n))

/-- Stir four words: add, mask and rotate, four times. -/
def quarterRound (a b c d : UInt32) : UInt32 × UInt32 × UInt32 × UInt32 :=
  let a := a + b
  let d := rotateLeft (d ^^^ a) 16
  let c := c + d
  let b := rotateLeft (b ^^^ c) 12
  let a := a + b
  let d := rotateLeft (d ^^^ a) 8
  let c := c + d
  let b := rotateLeft (b ^^^ c) 7
  (a, b, c, d)

def doubleRound (w : Words) : Words :=
  let (x0, x4, x8, x12) := quarterRound w.x0 w.x4 w.x8 w.x12
  let (x1, x5, x9, x13) := quarterRound w.x1 w.x5 w.x9 w.x13
  let (x2, x6, x10, x14) := quarterRound w.x2 w.x6 w.x10 w.x14
  let (x3, x7, x11, x15) := quarterRound w.x3 w.x7 w.x11 w.x15
  let (x0, x5, x10, x15) := quarterRound x0 x5 x10 x15
  let (x1, x6, x11, x12) := quarterRound x1 x6 x11 x12
  let (x2, x7, x8, x13) := quarterRound x2 x7 x8 x13
  let (x3, x4, x9, x14) := quarterRound x3 x4 x9 x14
  ⟨x0, x1, x2, x3, x4, x5, x6, x7, x8, x9, x10, x11, x12, x13, x14, x15⟩

/-- Word `i` of some bytes, least significant byte first. -/
def word (bytes : Bytes) (i : Nat) : UInt32 :=
  ((bytes.drop (4 * i)).take 4).foldr (fun b n => (n <<< 8) ||| b.toUInt32) 0

/-- Where block `counter` starts. -/
def start (key : Key) (nonce : Nonce) (counter : UInt32) : Words :=
  let k := key.bytes
  let n := nonce.bytes
  ⟨0x61707865, 0x3320646e, 0x79622d32, 0x6b206574,
    word k 0, word k 1, word k 2, word k 3, word k 4, word k 5, word k 6, word k 7,
    counter, word n 0, word n 1, word n 2⟩

/-- A word as four bytes, least significant first. -/
def wordBytes (x : UInt32) : Bytes :=
  [x.toUInt8, (x >>> 8).toUInt8, (x >>> 16).toUInt8, (x >>> 24).toUInt8]

/-- Word-wise sum of two blocks, as bytes. -/
def sumBytes (v w : Words) : Bytes :=
  wordBytes (v.x0 + w.x0) ++ wordBytes (v.x1 + w.x1) ++ wordBytes (v.x2 + w.x2) ++
    wordBytes (v.x3 + w.x3) ++ wordBytes (v.x4 + w.x4) ++ wordBytes (v.x5 + w.x5) ++
    wordBytes (v.x6 + w.x6) ++ wordBytes (v.x7 + w.x7) ++ wordBytes (v.x8 + w.x8) ++
    wordBytes (v.x9 + w.x9) ++ wordBytes (v.x10 + w.x10) ++ wordBytes (v.x11 + w.x11) ++
    wordBytes (v.x12 + w.x12) ++ wordBytes (v.x13 + w.x13) ++ wordBytes (v.x14 + w.x14) ++
    wordBytes (v.x15 + w.x15)

def blockSize : Nat := 64

def block (key : Key) (nonce : Nonce) (counter : UInt32) : Bytes :=
  let w := start key nonce counter
  sumBytes w (Nat.repeat doubleRound 10 w)

/-- The key stream from block `counter` on, `count` blocks of it. -/
def keyStream (key : Key) (nonce : Nonce) (counter : UInt32) : (count : Nat) → Bytes
  | 0 => []
  | count + 1 => block key nonce counter ++ keyStream key nonce (counter + 1) count

/-- Mask a text with the key stream from block `counter` on. -/
def mask (key : Key) (nonce : Nonce) (counter : UInt32) (text : Bytes) : Bytes :=
  text.xor (keyStream key nonce counter ((text.length + blockSize - 1) / blockSize))

@[simp] theorem length_wordBytes (x : UInt32) : (wordBytes x).length = 4 := rfl

@[simp] theorem length_sumBytes (v w : Words) : (sumBytes v w).length = blockSize := by
  simp only [sumBytes, List.length_append, length_wordBytes, blockSize]

@[simp] theorem length_block (key : Key) (nonce : Nonce) (counter : UInt32) :
    (block key nonce counter).length = blockSize :=
  length_sumBytes ..

@[simp] theorem length_keyStream (key : Key) (nonce : Nonce) (counter : UInt32) (count : Nat) :
    (keyStream key nonce counter count).length = count * blockSize := by
  induction count generalizing counter with
  | zero => simp [keyStream]
  | succ count ih => simp [keyStream, ih, Nat.succ_mul, Nat.add_comm]

@[simp] theorem length_mask (key : Key) (nonce : Nonce) (counter : UInt32) (text : Bytes) :
    (mask key nonce counter text).length = text.length := by
  simp only [mask, Bytes.length_xor, length_keyStream, blockSize]
  omega

/-- Masking twice gives the text back. -/
theorem mask_mask (key : Key) (nonce : Nonce) (counter : UInt32) (text : Bytes) :
    mask key nonce counter (mask key nonce counter text) = text := by
  have hlen : (mask key nonce counter text).length = text.length := length_mask ..
  unfold mask at hlen ⊢
  rw [hlen]
  apply Bytes.xor_xor_cancel
  simp only [length_keyStream, blockSize]
  omega

end HomePairing.ChaCha20
