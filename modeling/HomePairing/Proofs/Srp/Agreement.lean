import HomePairing.Proofs.Bytes.Number
import HomePairing.Srp.Exchange
import Mathlib.Data.Nat.ModEq

/-!
# Agreement of the password exchange

The server raises `A * v ^ u` to the power `b`, the client `B - k * g ^ x` to the power
`a + u * x`. Modulo the group's number both are `g ^ (b * (a + u * x))`: what blinds the
server's value is taken away again (`unblinded_modEq`), and what the server lacks in the
exponent is in the verifier (`secret_eq`). So both sides hash the same secret, and as
all other inputs of the proofs are the same bytes on both sides, either accepts the
other (`agreement_of_sound`).

The laws hold for every group in which numbers fit the width and the generator is prime
to the modulus (`Scheme.Sound`); the standard group is one of them.
-/

namespace HomePairing.Srp

namespace Scheme

/-- A group in which the exchange works. -/
structure Sound (scheme : Scheme) : Prop where
  one_lt_modulus : 1 < scheme.modulus
  /-- What is below the modulus fits the width. -/
  modulus_le : scheme.modulus ≤ 256 ^ scheme.width
  coprime : Nat.Coprime scheme.generator scheme.modulus

theorem sound_standard : standard.Sound where
  one_lt_modulus := by decide +kernel
  modulus_le := by decide +kernel
  coprime := by decide +kernel

variable {scheme : Scheme}

/-! ## Powers -/

theorem pow_eq (base exponent : Nat) :
    scheme.pow base exponent = base ^ exponent % scheme.modulus :=
  powMod_eq base exponent scheme.modulus

theorem pow_modEq (base exponent : Nat) :
    scheme.pow base exponent ≡ base ^ exponent [MOD scheme.modulus] := by
  rw [pow_eq]
  exact Nat.mod_modEq _ _

namespace Sound

theorem modulus_pos (sound : scheme.Sound) : 0 < scheme.modulus :=
  Nat.zero_lt_of_lt sound.one_lt_modulus

theorem pow_lt (sound : scheme.Sound) (base exponent : Nat) :
    scheme.pow base exponent < scheme.modulus := by
  rw [pow_eq]
  exact Nat.mod_lt _ sound.modulus_pos

/-- A power of the generator is never zero modulo the modulus. -/
theorem pow_generator_mod_ne_zero (sound : scheme.Sound) (exponent : Nat) :
    scheme.pow scheme.generator exponent % scheme.modulus ≠ 0 := by
  intro zero
  rw [pow_eq, Nat.mod_mod] at zero
  have divides := Nat.dvd_of_mod_eq_zero zero
  have coprime : Nat.Coprime scheme.modulus (scheme.generator ^ exponent) :=
    (Nat.Coprime.pow_left exponent sound.coprime).symm
  exact absurd (coprime.eq_one_of_dvd divides) (Nat.ne_of_gt sound.one_lt_modulus)

end Sound

/-! ## Written values -/

@[simp] theorem toNatBE_padNat (n : Nat) : Bytes.toNatBE (scheme.padNat n) = n := by
  rw [padNat, pad, Bytes.toNatBE_padLeft, Bytes.toNatBE_ofNatMinimal]

/-- What is below the modulus is written in exactly as many bytes as the group is wide. -/
theorem Sound.length_padNat (sound : scheme.Sound) {n : Nat} (below : n < scheme.modulus) :
    (scheme.padNat n).length = scheme.width := by
  have room : 0 < scheme.width := by
    refine Nat.pos_of_ne_zero fun none => ?_
    have small := sound.modulus_le
    rw [none] at small
    exact absurd sound.one_lt_modulus (Nat.not_lt.mpr small)
  have short := Bytes.length_ofNatMinimal_le (Nat.lt_of_lt_of_le below sound.modulus_le) room
  rw [padNat, pad, Bytes.length_padLeft]
  exact Nat.max_eq_left short

end Scheme

/-! ## The two secrets -/

variable {scheme : Scheme}

/-- The server that keeps the verifier of a password, with a secret exponent. -/
def Server.ofPassword (scheme : Scheme) (user password salt : Bytes) (exponent : Nat) : Server :=
  ⟨Bytes.toNatBE (scheme.verifier user password salt), exponent⟩

@[simp] theorem Server.verifier_ofPassword (user password salt : Bytes) (exponent : Nat) :
    (ofPassword scheme user password salt exponent).verifier =
      scheme.pow scheme.generator (scheme.privateValue user password salt) :=
  Bytes.toNatBE_ofNatMinimal _

@[simp] theorem Server.exponent_ofPassword (user password salt : Bytes) (exponent : Nat) :
    (ofPassword scheme user password salt exponent).exponent = exponent := rfl

/-- The secret that a server shares with the owner of a public value. -/
def Server.secret (scheme : Scheme) (server : Server) (clientKey : Bytes) : Nat :=
  let u := scheme.scrambling clientKey (server.publicKey scheme)
  scheme.pow (Bytes.toNatBE clientKey * scheme.pow server.verifier u % scheme.modulus)
    server.exponent

/-- What blinds the server's value: the multiplier times the verifier. -/
def Client.blinding (scheme : Scheme) (x : Nat) : Nat :=
  scheme.multiplier * scheme.pow scheme.generator x % scheme.modulus

/-- The secret that a client with a password shares with the owner of a public value. -/
def Client.secret (scheme : Scheme) (client : Client) (user password salt serverKey : Bytes) :
    Nat :=
  let u := scheme.scrambling (client.publicKey scheme) serverKey
  let x := scheme.privateValue user password salt
  scheme.pow ((Bytes.toNatBE serverKey % scheme.modulus + scheme.modulus -
    Client.blinding scheme x) % scheme.modulus) (client.exponent + u * x)

/-- The verifier brings the server the part of the exponent that only the client knows. -/
theorem raised_modEq (a b u x : Nat) :
    (scheme.pow scheme.generator a * scheme.pow (scheme.pow scheme.generator x) u) ^ b ≡
      (scheme.generator ^ b) ^ (a + u * x) [MOD scheme.modulus] := by
  have verifier : scheme.pow (scheme.pow scheme.generator x) u ≡ (scheme.generator ^ x) ^ u
      [MOD scheme.modulus] :=
    (Scheme.pow_modEq _ _).trans ((Scheme.pow_modEq _ _).pow u)
  calc (scheme.pow scheme.generator a * scheme.pow (scheme.pow scheme.generator x) u) ^ b
      ≡ (scheme.generator ^ a * (scheme.generator ^ x) ^ u) ^ b [MOD scheme.modulus] :=
        ((Scheme.pow_modEq _ _).mul verifier).pow b
    _ = (scheme.generator ^ b) ^ (a + u * x) := by
        rw [← pow_mul, ← pow_add, ← pow_mul, ← pow_mul, Nat.mul_comm x u, Nat.mul_comm b]

section

variable (sound : scheme.Sound)
include sound

theorem blinding_lt (x : Nat) : Client.blinding scheme x < scheme.modulus :=
  Nat.mod_lt _ sound.modulus_pos

/-- Taking the blinding away from the server's value leaves the power of the generator. -/
theorem unblinded_modEq (x b : Nat) :
    (scheme.multiplier * scheme.pow scheme.generator x + scheme.pow scheme.generator b) %
        scheme.modulus + scheme.modulus - Client.blinding scheme x ≡
      scheme.generator ^ b [MOD scheme.modulus] := by
  have below := blinding_lt sound x
  -- Both sides are compared with the blinding added back, where nothing is subtracted.
  refine Nat.ModEq.add_right_cancel' (Client.blinding scheme x) ?_
  rw [Nat.sub_add_cancel (by omega)]
  calc (scheme.multiplier * scheme.pow scheme.generator x + scheme.pow scheme.generator b) %
        scheme.modulus + scheme.modulus
      ≡ scheme.multiplier * scheme.pow scheme.generator x + scheme.pow scheme.generator b
        [MOD scheme.modulus] := by
        rw [Nat.ModEq, Nat.add_mod_right, Nat.mod_mod]
    _ = scheme.pow scheme.generator b + scheme.multiplier * scheme.pow scheme.generator x :=
        Nat.add_comm _ _
    _ ≡ scheme.generator ^ b + Client.blinding scheme x [MOD scheme.modulus] :=
        (Scheme.pow_modEq _ _).add (Nat.mod_modEq _ _).symm

/-- The two sides raise different numbers to different powers, and get the same secret. -/
theorem secret_eq (user password salt : Bytes) (a b : Nat) :
    let server := Server.ofPassword scheme user password salt b
    let client : Client := ⟨a⟩
    server.secret scheme (client.publicKey scheme) =
      client.secret scheme user password salt (server.publicKey scheme) := by
  intro server client
  simp only [Server.secret, Client.secret]
  generalize scheme.scrambling (client.publicKey scheme) (server.publicKey scheme) = u
  simp only [Server.publicKey, Client.publicKey, Scheme.toNatBE_padNat, server, client,
    Server.verifier_ofPassword, Server.exponent_ofPassword, Nat.mod_mod]
  generalize scheme.privateValue user password salt = x
  have unblinded := unblinded_modEq sound x b
  rw [Scheme.pow_eq (_ * _ % _) b, Scheme.pow_eq _ (a + u * x)]
  calc (scheme.pow scheme.generator a * scheme.pow (scheme.pow scheme.generator x) u %
        scheme.modulus) ^ b
      ≡ (scheme.pow scheme.generator a * scheme.pow (scheme.pow scheme.generator x) u) ^ b
        [MOD scheme.modulus] := (Nat.mod_modEq _ _).pow b
    _ ≡ (scheme.generator ^ b) ^ (a + u * x) [MOD scheme.modulus] := raised_modEq a b u x
    _ ≡ _ [MOD scheme.modulus] := (((Nat.mod_modEq _ _).trans unblinded).pow _).symm

end

/-! ## Answers -/

/-- A client answers every public value that is not zero modulo the modulus. -/
theorem Client.answer_of_ne (client : Client) (user password salt serverKey : Bytes)
    (nonzero : Bytes.toNatBE serverKey % scheme.modulus ≠ 0) :
    let clientKey := client.publicKey scheme
    let key := scheme.sessionKey (client.secret scheme user password salt serverKey)
    client.answer scheme user password salt serverKey =
      .ok ⟨clientKey, scheme.clientProof user salt clientKey serverKey key, key⟩ := by
  simp only [answer, if_neg nonzero]
  rfl

/-- A server accepts the proof that is made from its own secret. -/
theorem Server.verifyClient_of_ne (server : Server) (user salt clientKey : Bytes)
    (nonzero : Bytes.toNatBE clientKey % scheme.modulus ≠ 0)
    (scrambled : scheme.scrambling clientKey (server.publicKey scheme) ≠ 0) :
    let key := scheme.sessionKey (server.secret scheme clientKey)
    let proof := scheme.clientProof user salt clientKey (server.publicKey scheme) key
    server.verifyClient scheme user salt clientKey proof =
      .ok (key, scheme.serverProof clientKey proof key) := by
  simp only [verifyClient, if_neg nonzero, if_neg scrambled]
  exact if_pos rfl

theorem Pending.verifyServer_serverProof (pending : Pending) :
    pending.verifyServer scheme
        (scheme.serverProof pending.publicKey pending.proof pending.key) =
      .ok pending.key :=
  if_pos rfl

/-! ## Agreement -/

section

variable (sound : scheme.Sound)
include sound

theorem length_publicKey_server (server : Server) :
    (server.publicKey scheme).length = scheme.width :=
  sound.length_padNat (Nat.mod_lt _ sound.modulus_pos)

theorem length_publicKey_client (client : Client) :
    (client.publicKey scheme).length = scheme.width :=
  sound.length_padNat (sound.pow_lt _ _)

/-- An honest client's public value is not zero modulo the modulus. -/
theorem publicKey_client_mod_ne_zero (client : Client) :
    Bytes.toNatBE (client.publicKey scheme) % scheme.modulus ≠ 0 := by
  rw [Client.publicKey, Scheme.toNatBE_padNat]
  exact sound.pow_generator_mod_ne_zero _

/-- A server with the verifier of a password and a client with the password accept each
other's proofs and release the same key. -/
theorem agreement_of_sound (user password salt : Bytes) (a b : Nat) :
    let server := Server.ofPassword scheme user password salt b
    let client : Client := ⟨a⟩
    let serverKey := server.publicKey scheme
    let clientKey := client.publicKey scheme
    Bytes.toNatBE serverKey % scheme.modulus ≠ 0 →
    scheme.scrambling clientKey serverKey ≠ 0 →
    ∃ pending proof,
      client.answer scheme user password salt serverKey = .ok pending ∧
      pending.publicKey = clientKey ∧
      server.verifyClient scheme user salt clientKey pending.proof = .ok (pending.key, proof) ∧
      pending.verifyServer scheme proof = .ok pending.key := by
  intro server client serverKey clientKey nonzero scrambled
  have same := secret_eq sound user password salt a b
  have answered := client.answer_of_ne user password salt serverKey nonzero
  have accepted := server.verifyClient_of_ne user salt clientKey
    (publicKey_client_mod_ne_zero sound client) scrambled
  rw [same] at accepted
  exact ⟨_, _, answered, rfl, accepted, Pending.verifyServer_serverProof _⟩

end

/-- In the standard group, for every password and all secret exponents: both public values
are 384 bytes long, the client's is never zero modulo the modulus, and nothing the client
takes away exceeds what it is taken from; and unless the server's value or the scrambling
parameter is zero, either side accepts the other's proof and both release one key. -/
theorem agreement (user password salt : Bytes) (a b : Nat) :
    let scheme := Scheme.standard
    let server : Server := ⟨Bytes.toNatBE (scheme.verifier user password salt), b⟩
    let client : Client := ⟨a⟩
    let serverKey := server.publicKey scheme
    let clientKey := client.publicKey scheme
    serverKey.length = 384 ∧
    clientKey.length = 384 ∧
    Bytes.toNatBE clientKey % scheme.modulus ≠ 0 ∧
    scheme.multiplier * scheme.pow scheme.generator (scheme.privateValue user password salt) %
        scheme.modulus ≤
      Bytes.toNatBE serverKey % scheme.modulus + scheme.modulus ∧
    (Bytes.toNatBE serverKey % scheme.modulus ≠ 0 →
      scheme.scrambling clientKey serverKey ≠ 0 →
      ∃ pending proof,
        client.answer scheme user password salt serverKey = .ok pending ∧
        pending.publicKey = clientKey ∧
        server.verifyClient scheme user salt clientKey pending.proof =
          .ok (pending.key, proof) ∧
        pending.verifyServer scheme proof = .ok pending.key) := by
  intro scheme server client serverKey clientKey
  have sound : scheme.Sound := Scheme.sound_standard
  have below := blinding_lt sound (scheme.privateValue user password salt)
  refine ⟨length_publicKey_server sound server, length_publicKey_client sound client,
    publicKey_client_mod_ne_zero sound client, ?_, ?_⟩
  · exact Nat.le_of_lt (Nat.lt_of_lt_of_le below (Nat.le_add_left _ _))
  · exact agreement_of_sound sound user password salt a b

/-- With the secret exponents 7 and 5 neither value is zero, so the two agree. -/
theorem agreement_small_exponents :
    let scheme := Scheme.standard
    let user := Bytes.ofString "Pair-Setup"
    let password := Bytes.ofString "031-45-154"
    let salt := List.replicate 16 7
    let server : Server := ⟨Bytes.toNatBE (scheme.verifier user password salt), 5⟩
    let client : Client := ⟨7⟩
    let serverKey := server.publicKey scheme
    let clientKey := client.publicKey scheme
    Bytes.toNatBE serverKey % scheme.modulus ≠ 0 ∧
    scheme.scrambling clientKey serverKey ≠ 0 ∧
    ∃ pending proof,
      client.answer scheme user password salt serverKey = .ok pending ∧
      server.verifyClient scheme user salt clientKey pending.proof =
        .ok (pending.key, proof) ∧
      pending.verifyServer scheme proof = .ok pending.key := by
  intro scheme user password salt server client serverKey clientKey
  have nonzero : Bytes.toNatBE serverKey % scheme.modulus ≠ 0 := by decide +kernel
  have scrambled : scheme.scrambling clientKey serverKey ≠ 0 := by decide +kernel
  obtain ⟨_, _, _, _, agree⟩ := agreement user password salt 7 5
  obtain ⟨pending, proof, answered, _, accepted, released⟩ := agree nonzero scrambled
  exact ⟨nonzero, scrambled, pending, proof, answered, accepted, released⟩

end HomePairing.Srp
