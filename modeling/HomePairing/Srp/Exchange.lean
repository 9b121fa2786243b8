import HomePairing.Srp.Scheme

/-!
# The password exchange: both sides

The server starts from a verifier and a secret exponent `b`, the client from the
password and a secret exponent `a`. Each sends one public value and one proof.
Both end with the key `H(S)`, where the server computes `S = (A * v ^ u) ^ b`
and the client `S = (B - k * g ^ x) ^ (a + u * x)`.
-/

namespace HomePairing.Srp

/-- Why an exchange is broken off. -/
inductive Refusal where
  /-- The client's public value is a multiple of the modulus. -/
  | clientKey
  /-- The scrambling parameter is zero. -/
  | scrambling
  /-- The client's proof is not the expected one. -/
  | clientProof
  /-- The server's public value is a multiple of the modulus. -/
  | serverKey
  /-- The server's proof is not the expected one. -/
  | serverProof
deriving DecidableEq, Repr

def Refusal.message : Refusal → String
  | clientKey => "Invalid client public key"
  | scrambling => "Invalid scrambling parameter"
  | clientProof => "Client proof verification failed"
  | serverKey => "Invalid server public key"
  | serverProof => "Server proof verification failed"

/-! ## The server -/

structure Server where
  /-- The verifier `v`. -/
  verifier : Nat
  /-- The secret exponent `b`. -/
  exponent : Nat
deriving DecidableEq

namespace Server

/-- A server for a stored verifier and 32 random bytes. -/
def start (scheme : Scheme) (verifier random : Bytes) : Server :=
  ⟨Bytes.toNatBE verifier, scheme.exponent random⟩

def publicKey (scheme : Scheme) (server : Server) : Bytes :=
  let blinded := scheme.multiplier * server.verifier
  scheme.padNat ((blinded + scheme.pow scheme.generator server.exponent) % scheme.modulus)

/-- Check the client's proof. A client that knows the password gets the session
key and the server's proof. -/
def verifyClient (scheme : Scheme) (server : Server) (user salt clientKey proof : Bytes) :
    Except Refusal (Bytes × Bytes) :=
  let a := Bytes.toNatBE clientKey
  let serverKey := server.publicKey scheme
  let u := scheme.scrambling clientKey serverKey
  -- A multiple of the modulus would make the secret zero whatever the password.
  if a % scheme.modulus = 0 then
    .error .clientKey
  else if u = 0 then
    .error .scrambling
  else
    let base := a * scheme.pow server.verifier u % scheme.modulus
    let key := scheme.sessionKey (scheme.pow base server.exponent)
    if scheme.clientProof user salt clientKey serverKey key = proof then
      .ok (key, scheme.serverProof clientKey proof key)
    else
      .error .clientProof

end Server

/-! ## The client -/

structure Client where
  /-- The secret exponent `a`. -/
  exponent : Nat
deriving DecidableEq

/-- What a client keeps between its proof and the server's. -/
structure Pending where
  publicKey : Bytes
  proof : Bytes
  /-- The session key, to be released once the server has proved itself. -/
  key : Bytes
deriving DecidableEq

namespace Client

/-- A client with 32 random bytes. -/
def start (scheme : Scheme) (random : Bytes) : Client :=
  ⟨scheme.exponent random⟩

def publicKey (scheme : Scheme) (client : Client) : Bytes :=
  scheme.padNat (scheme.pow scheme.generator client.exponent)

/-- Answer a server's salt and public value with a proof. The modulus is added
before `k * g ^ x` is taken away, so the difference never drops below zero. -/
def answer (scheme : Scheme) (client : Client) (user password salt serverKey : Bytes) :
    Except Refusal Pending :=
  let b := Bytes.toNatBE serverKey
  if b % scheme.modulus = 0 then
    .error .serverKey
  else
    let clientKey := client.publicKey scheme
    let u := scheme.scrambling clientKey serverKey
    let x := scheme.privateValue user password salt
    let blinded := scheme.multiplier * scheme.pow scheme.generator x % scheme.modulus
    let base := (b % scheme.modulus + scheme.modulus - blinded) % scheme.modulus
    let key := scheme.sessionKey (scheme.pow base (client.exponent + u * x))
    .ok
      { publicKey := clientKey
        proof := scheme.clientProof user salt clientKey serverKey key
        key := key }

end Client

/-- Check the server's proof and release the session key. -/
def Pending.verifyServer (scheme : Scheme) (pending : Pending) (proof : Bytes) :
    Except Refusal Bytes :=
  if scheme.serverProof pending.publicKey pending.proof pending.key = proof then
    .ok pending.key
  else
    .error .serverProof

end HomePairing.Srp
