import HomePairing.Crypto.Suite
import HomePairing.Entropy
import HomePairing.Text.Quoted

/-!
# Long-term identities

An accessory and a controller each have an identifier and a signing seed that
they keep for life. Whoever has paired with one recognises it by the public half
of the seed.
-/

namespace HomePairing

structure Identity where
  /-- The identifier, which is also sent. -/
  pairingId : String
  /-- The secret seed, which never is. -/
  seed : Key
deriving DecidableEq

namespace Identity

/-- Two upper-case digits of a random byte. -/
def idPair (b : UInt8) : String :=
  (Text.hexByte b).map Char.toUpper

/-- The low bytes of `count` random words. -/
def drawLowBytes : (count : Nat) → Entropy → Bytes × Entropy
  | 0, entropy => ([], entropy)
  | count + 1, entropy =>
    let (word, entropy) := entropy.drawWord
    let (rest, entropy) := drawLowBytes count entropy
    (UInt8.ofNat word :: rest, entropy)

/-- A random identifier: six pairs of digits between colons. -/
def generateId (entropy : Entropy) : String × Entropy :=
  let (bytes, entropy) := drawLowBytes 6 entropy
  (String.intercalate ":" (bytes.map idPair), entropy)

def generate (entropy : Entropy) : Identity × Entropy :=
  let (id, entropy) := generateId entropy
  let (seed, entropy) := entropy.draw 32
  (⟨id, seed⟩, entropy)

def publicKey (suite : Suite) (identity : Identity) : Key :=
  suite.signingPublic identity.seed

def sign (suite : Suite) (identity : Identity) (message : Bytes) : Signature :=
  suite.sign identity.seed message

def describePublic (key : Key) : String :=
  "Ed25519PublicKey(" ++ Text.byteRow key.bytes ++ ")"

/-- A signing key in one line, without its seed. -/
def describeSigner (key : Key) : String :=
  "Ed25519KeyPair \x7b public_key: " ++ describePublic key ++ ", .. \x7d"

def describe (suite : Suite) (identity : Identity) : String :=
  "LongTermIdentity \x7b pairing_id: " ++ Text.quote identity.pairingId ++
    ", public_key: " ++ describePublic (identity.publicKey suite) ++ ", .. \x7d"

/-- The identity as it lies in a file, in one line. -/
def describeStored (identity : Identity) : String :=
  "StoredIdentity \x7b pairing_id: " ++ Text.quote identity.pairingId ++
    ", secret_key: \"<redacted>\" \x7d"

end Identity

end HomePairing
