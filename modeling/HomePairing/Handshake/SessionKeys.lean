import HomePairing.Crypto.Suite

/-!
# The keys of a session

Two keys come out of Pair-Verify, one for each direction. They are named from
the controller's side; the accessory reads what the controller writes.
-/

namespace HomePairing

/-- The keys of the two directions. -/
structure SessionKeys where
  /-- Seals what the controller writes. -/
  controlWrite : Key
  /-- Seals what the controller reads. -/
  controlRead : Key
deriving DecidableEq

namespace SessionKeys

def derive (suite : Suite) (secret : Bytes) : SessionKeys where
  controlWrite := suite.derive .controlWrite secret
  controlRead := suite.derive .controlRead secret

def describe (_ : SessionKeys) : String :=
  "SessionKeys \x7b control_write: \"<redacted>\", control_read: \"<redacted>\" \x7d"

end SessionKeys

end HomePairing
