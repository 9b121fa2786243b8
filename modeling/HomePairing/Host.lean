import HomePairing.Entropy
import HomePairing.Log
import HomePairing.Store.Disk

/-!
# The machine an accessory runs on

Serving a request can draw random bytes, change files and write warnings. These
three are handed in with every request and handed back with its answer.
-/

namespace HomePairing

/-- The random bytes, the files and the warnings of a machine. -/
structure Host where
  entropy : Entropy
  disk : Disk
  log : Log

namespace Host

def warn (host : Host) (warning : Warning) : Host :=
  { host with log := host.log ++ [warning] }

def draw (host : Host) (n : Nat) : Block n × Host :=
  let (block, entropy) := host.entropy.draw n
  (block, { host with entropy })

end Host

end HomePairing
