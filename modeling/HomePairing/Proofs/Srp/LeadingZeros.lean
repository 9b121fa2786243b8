import HomePairing.Proofs.Srp.Agreement

/-!
# Public values with and without their leading zeros

A public value comes as bytes, and about one in 256 of them starts with a zero that the
other side may have left out. Each side looks at the bytes it gets in two ways only: as a
number, and filled up to the group's width, in every hash. Two strings that fit the width and
denote one number are alike in both (`Scheme.Alike`), so neither side can tell them apart,
whether it accepts or refuses (`verifyClient_alike`, `answer_alike`).
-/

namespace HomePairing.Srp

variable {scheme : Scheme} {key other : Bytes}

/-- Two writings of one public value, with more or fewer zeros in front. -/
structure Scheme.Alike (scheme : Scheme) (key other : Bytes) : Prop where
  fits : key.length ≤ scheme.width
  fits_other : other.length ≤ scheme.width
  same : Bytes.toNatBE key = Bytes.toNatBE other

namespace Scheme.Alike

/-- At the group's width nothing is left to tell them apart. -/
theorem pad_eq (alike : scheme.Alike key other) : scheme.pad key = scheme.pad other := by
  rw [pad, pad, Bytes.padLeft_eq_ofNatBE alike.fits, Bytes.padLeft_eq_ofNatBE alike.fits_other,
    alike.same]

theorem scrambling_client (alike : scheme.Alike key other) (serverKey : Bytes) :
    scheme.scrambling key serverKey = scheme.scrambling other serverKey := by
  rw [scrambling, scrambling, alike.pad_eq]

theorem scrambling_server (alike : scheme.Alike key other) (clientKey : Bytes) :
    scheme.scrambling clientKey key = scheme.scrambling clientKey other := by
  rw [scrambling, scrambling, alike.pad_eq]

theorem clientProof_client (alike : scheme.Alike key other) (user salt serverKey secret : Bytes) :
    scheme.clientProof user salt key serverKey secret =
      scheme.clientProof user salt other serverKey secret := by
  rw [clientProof, clientProof, alike.pad_eq]

theorem clientProof_server (alike : scheme.Alike key other) (user salt clientKey secret : Bytes) :
    scheme.clientProof user salt clientKey key secret =
      scheme.clientProof user salt clientKey other secret := by
  rw [clientProof, clientProof, alike.pad_eq]

theorem serverProof (alike : scheme.Alike key other) (proof secret : Bytes) :
    scheme.serverProof key proof secret = scheme.serverProof other proof secret := by
  rw [Scheme.serverProof, Scheme.serverProof, alike.pad_eq]

end Scheme.Alike

/-- A server comes to the same result: the same refusal, or the same key and proof. -/
theorem Server.verifyClient_alike (server : Server) (alike : scheme.Alike key other)
    (user salt proof : Bytes) :
    server.verifyClient scheme user salt key proof =
      server.verifyClient scheme user salt other proof := by
  simp only [verifyClient, alike.same, alike.scrambling_client, alike.clientProof_client,
    alike.serverProof]

/-- A client comes to the same result: the same refusal, or the same proof and key. -/
theorem Client.answer_alike (client : Client) (alike : scheme.Alike key other)
    (user password salt : Bytes) :
    client.answer scheme user password salt key =
      client.answer scheme user password salt other := by
  simp only [answer, alike.same, alike.scrambling_server, alike.clientProof_server]

/-- In the standard group, two strings of at most 384 bytes that denote one number bring
about the same, as a client's public value before any server and as a server's before any
client: the same refusal, or the same key and the same proof. -/
theorem results_of_same_number {key other : Bytes} (short : key.length ≤ 384)
    (short_other : other.length ≤ 384) (same : Bytes.toNatBE key = Bytes.toNatBE other) :
    (∀ (server : Server) (user salt proof : Bytes),
      server.verifyClient .standard user salt key proof =
        server.verifyClient .standard user salt other proof) ∧
    ∀ (client : Client) (user password salt : Bytes),
      client.answer .standard user password salt key =
        client.answer .standard user password salt other := by
  have alike : Scheme.standard.Alike key other := ⟨short, short_other, same⟩
  exact ⟨fun server user salt proof => server.verifyClient_alike alike user salt proof,
    fun client user password salt => client.answer_alike alike user password salt⟩

/-- A client with the exponent 7 has the public value 78125. Sent in three bytes instead of
384 it is accepted all the same, with the same key and the same proof; and an answer to the
value 2 is an answer to 2 with a zero in front. The server's verifier is as good as any. -/
theorem results_of_same_number_stripped :
    let scheme := Scheme.standard
    let user := Bytes.ofString "Pair-Setup"
    let password := Bytes.ofString "031-45-154"
    let salt := List.replicate 16 7
    let server : Server := ⟨2, 5⟩
    let client : Client := ⟨7⟩
    let stripped : Bytes := [1, 49, 45]
    let clientKey := client.publicKey scheme
    (stripped.length ≤ 384 ∧ clientKey.length ≤ 384 ∧ stripped ≠ clientKey ∧
      Bytes.toNatBE stripped = Bytes.toNatBE clientKey) ∧
    (∃ proof key serverProof,
      server.verifyClient scheme user salt clientKey proof = .ok (key, serverProof) ∧
      server.verifyClient scheme user salt stripped proof = .ok (key, serverProof)) ∧
    ∃ pending,
      client.answer scheme user password salt [2] = .ok pending ∧
      client.answer scheme user password salt [0, 2] = .ok pending := by
  intro scheme user password salt server client stripped clientKey
  have full : clientKey.length ≤ 384 :=
    Nat.le_of_eq (length_publicKey_client Scheme.sound_standard client)
  have same : Bytes.toNatBE stripped = Bytes.toNatBE clientKey := by decide +kernel
  have scrambled : scheme.scrambling clientKey (server.publicKey scheme) ≠ 0 := by
    decide +kernel
  have accepted := server.verifyClient_of_ne user salt clientKey
    (publicKey_client_mod_ne_zero Scheme.sound_standard client) scrambled
  have nonzero : Bytes.toNatBE [2] % scheme.modulus ≠ 0 := by decide +kernel
  have answered := client.answer_of_ne user password salt [2] nonzero
  have zero_before : Bytes.toNatBE [0, 2] = Bytes.toNatBE [2] := by decide
  obtain ⟨atServer, -⟩ := results_of_same_number (by decide) full same
  obtain ⟨-, atClient⟩ := results_of_same_number (by decide) (by decide) zero_before
  refine ⟨⟨by decide, full, by decide +kernel, same⟩, ⟨_, _, _, accepted, ?_⟩,
    ⟨_, answered, ?_⟩⟩
  · exact (atServer server user salt _).trans accepted
  · exact (atClient client user password salt).trans answered

end HomePairing.Srp
