import HomePairing.Bytes.Number
import HomePairing.Hash.Sha512
import HomePairing.Number.PowMod

/-!
# The password exchange: group and hashes

SRP-6a lets two sides that know one password agree on a key without sending the
password. A `Scheme` fixes the group and the hash; the laws of the exchange hold
for any scheme, and `Scheme.standard` is the one that pairing uses.

The public values enter every hash at the group's full width. A value may arrive
with or without its leading zeros, so `Scheme.pad` is applied wherever one is
hashed.
-/

namespace HomePairing.Srp

/-- A group and a hash to run the exchange with. -/
structure Scheme where
  modulus : Nat
  generator : Nat
  /-- The number of bytes that hold any number below the modulus. -/
  width : Nat
  hash : Bytes → Bytes

namespace Scheme

variable (scheme : Scheme)

/-- A public value at the group's width. -/
def pad (bytes : Bytes) : Bytes :=
  Bytes.padLeft scheme.width bytes

def padNat (n : Nat) : Bytes :=
  scheme.pad (Bytes.ofNatMinimal n)

def pow (base exponent : Nat) : Nat :=
  powMod base exponent scheme.modulus

/-- The multiplier `k = H(N, pad g)`. -/
def multiplier : Nat :=
  Bytes.toNatBE (scheme.hash (Bytes.ofNatMinimal scheme.modulus ++ scheme.padNat scheme.generator))

/-- The private value `x = H(salt, H(user, ":", password))`. -/
def privateValue (user password salt : Bytes) : Nat :=
  let credentials := scheme.hash (user ++ Bytes.ofString ":" ++ password)
  Bytes.toNatBE (scheme.hash (salt ++ credentials))

/-- The scrambling parameter `u = H(pad A, pad B)`. -/
def scrambling (clientKey serverKey : Bytes) : Nat :=
  Bytes.toNatBE (scheme.hash (scheme.pad clientKey ++ scheme.pad serverKey))

/-- The session key of a shared secret `S`. -/
def sessionKey (secret : Nat) : Bytes :=
  scheme.hash (Bytes.ofNatMinimal secret)

/-- The client's proof `H(H(N) xor H(g), H(user), salt, pad A, pad B, K)`. -/
def clientProof (user salt clientKey serverKey key : Bytes) : Bytes :=
  let group := Bytes.xor (scheme.hash (Bytes.ofNatMinimal scheme.modulus))
    (scheme.hash (Bytes.ofNatMinimal scheme.generator))
  scheme.hash (group ++ scheme.hash user ++ salt ++ scheme.pad clientKey ++
    scheme.pad serverKey ++ key)

/-- The server's proof `H(pad A, M, K)`, where `M` is the client's. -/
def serverProof (clientKey proof key : Bytes) : Bytes :=
  scheme.hash (scheme.pad clientKey ++ proof ++ key)

/-- A secret exponent read from random bytes, least significant first. -/
def exponent (bytes : Bytes) : Nat :=
  Bytes.toNatLE bytes % scheme.modulus

/-- The password verifier `v = g ^ x`: what a server keeps instead of the
password. -/
def verifier (user password salt : Bytes) : Bytes :=
  Bytes.ofNatMinimal (scheme.pow scheme.generator (scheme.privateValue user password salt))

/-- The 3072-bit safe prime of RFC 5054, most significant word first. -/
def modulusWords : List Nat :=
  [0xFFFFFFFFFFFFFFFF, 0xC90FDAA22168C234, 0xC4C6628B80DC1CD1, 0x29024E088A67CC74,
   0x020BBEA63B139B22, 0x514A08798E3404DD, 0xEF9519B3CD3A431B, 0x302B0A6DF25F1437,
   0x4FE1356D6D51C245, 0xE485B576625E7EC6, 0xF44C42E9A637ED6B, 0x0BFF5CB6F406B7ED,
   0xEE386BFB5A899FA5, 0xAE9F24117C4B1FE6, 0x49286651ECE45B3D, 0xC2007CB8A163BF05,
   0x98DA48361C55D39A, 0x69163FA8FD24CF5F, 0x83655D23DCA3AD96, 0x1C62F356208552BB,
   0x9ED529077096966D, 0x670C354E4ABC9804, 0xF1746C08CA18217C, 0x32905E462E36CE3B,
   0xE39E772C180E8603, 0x9B2783A2EC07A28F, 0xB5C55DF06F4C52C9, 0xDE2BCBF695581718,
   0x3995497CEA956AE5, 0x15D2261898FA0510, 0x15728E5A8AAAC42D, 0xAD33170D04507A33,
   0xA85521ABDF1CBA64, 0xECFB850458DBEF0A, 0x8AEA71575D060C7D, 0xB3970F85A6E1E4C7,
   0xABF5AE8CDB0933D7, 0x1E8C94E04A25619D, 0xCEE3D2261AD2EE6B, 0xF12FFA06D98A0864,
   0xD87602733EC86A64, 0x521F2B18177B200C, 0xBBE117577A615D6C, 0x770988C0BAD946E2,
   0x08E24FA074E5AB31, 0x43DB5BFCE0FD108E, 0x4B82D120A93AD2CA, 0xFFFFFFFFFFFFFFFF]

/-- The 3072-bit group of RFC 5054 with SHA-512. -/
def standard : Scheme where
  modulus := modulusWords.foldl (fun n word => n * UInt64.size + word) 0
  generator := 5
  width := 384
  hash := Sha512.digest

end Scheme

end HomePairing.Srp
