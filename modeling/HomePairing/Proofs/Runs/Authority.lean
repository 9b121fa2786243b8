import HomePairing.Proofs.Runs.Verification

/-!
# In whose name pairings are managed

A request to manage pairings is carried out for the controller that its connection is
verified for, and only while an admin's record lies under that controller's identifier.
The record is looked up by the identifier alone, at every request. Is it also the record
of the key that was verified?

As long as the pairing stays it is, since no step exchanges the key of a controller that
stays. But the pairing may go and come back under another key (`World.Rekeyed`), and the
old connection is not told: a removal closes the connection it came over, and only if it
takes out that connection's own controller. `authority_of_serves` says that this is the
only way a request can be granted to another key than the filed one.
-/

namespace HomePairing.World

/-- While the connection was verified, its controller's pairing was gone and came back
under another key, and it has been there ever since. -/
def Rekeyed (suite : Suite) (start : World) (i : Nat) (requester : PairingRecord) :
    List Event → Prop :=
  History.Since
    (fun before event =>
      (start.run suite before).verifiedAs i = some requester ∧
      (start.run suite before).registry.find? requester.controllerId = none ∧
      ∃ known,
        (start.run suite (before ++ [event])).registry.find? requester.controllerId =
          some known ∧
        known.publicKey ≠ requester.publicKey)
    (fun before event =>
      (start.run suite (before ++ [event])).registry.find? requester.controllerId = none)

variable {suite : Suite} {accessory : Accessory} {host : Host} {events : List Event} {i : Nat}
  {requester : PairingRecord}

/-- A pairing that came back under another key has that key until it goes again. -/
theorem exists_other_key_of_rekeyed
    (rekeyed : Rekeyed suite (create accessory host) i requester events) :
    ∃ known,
      ((create accessory host).run suite events).registry.find? requester.controllerId =
        some known ∧
      known.publicKey ≠ requester.publicKey := by
  induction events using List.reverseRecOn with
  | nil => exact absurd rekeyed History.not_since_nil
  | append_singleton events event ih =>
      rcases History.since_concat.mp rekeyed with ⟨_, _, back⟩ | ⟨before, there⟩
      · exact back
      · obtain ⟨known, filed, other⟩ := ih before
        obtain ⟨record, present⟩ := Option.ne_none_iff_exists'.mp there
        refine ⟨record, present, ?_⟩
        rw [run_concat] at present
        rw [publicKey_step (exclusive_run suite accessory host events) filed present]
        exact other

/-- Another key under the identifier of a verified controller means that the pairing was
gone in between. -/
theorem rekeyed_of_other_key (wellFiled : accessory.registry.WellFiled) {known : PairingRecord}
    (verified : ((create accessory host).run suite events).verifiedAs i = some requester)
    (filed : ((create accessory host).run suite events).registry.find? requester.controllerId =
      some known)
    (other : known.publicKey ≠ requester.publicKey) :
    Rekeyed suite (create accessory host) i requester events := by
  induction events using List.reverseRecOn generalizing known with
  | nil => cases verified
  | append_singleton events event ih =>
      have there : ((create accessory host).run suite (events ++ [event])).registry.find?
          requester.controllerId ≠ none := by
        rw [filed]
        simp
      have present := filed
      rw [run_concat] at verified present
      rcases verifiedAs_step verified with before | now
      -- It was verified before. Either its pairing has come back in this very step, or it
      -- was there a step earlier, and with the same key.
      · cases earlier : ((create accessory host).run suite events).registry.find?
            requester.controllerId with
        | none => exact History.since_concat.mpr (.inl ⟨before, earlier, known, filed, other⟩)
        | some record =>
            have same := publicKey_step (exclusive_run suite accessory host events) earlier
              present
            exact (ih before earlier (same ▸ other)).concat there
      · -- Who has just been verified was looked up a moment ago.
        obtain ⟨⟨id, looked⟩, kept⟩ := now.filed
        have start : (create accessory host).registry.WellFiled := wellFiled
        have own := wellFiled_run suite start events id requester looked
        rw [kept, own, looked] at present
        cases present
        exact absurd rfl other

/-- A request to manage pairings is carried out only for a verified controller under whose
identifier an admin's record lies at that moment. The record has the verified key unless
the pairing has gone and come back under another one since. -/
theorem authority_of_serves (suite : Suite) (accessory : Accessory) (host : Host)
    (wellFiled : accessory.registry.WellFiled) (events : List Event) (i : Nat) (body : Bytes)
    (served : ((create accessory host).run suite events).Serves suite i .pairings body) :
    ∃ requester filed,
      ((create accessory host).run suite events).verifiedAs i = some requester ∧
      ((create accessory host).run suite events).registry.find? requester.controllerId =
        some filed ∧
      filed.controllerId = requester.controllerId ∧
      filed.permissions = .admin ∧
      (filed.publicKey = requester.publicKey ↔
        ¬ Rekeyed suite (create accessory host) i requester events) := by
  obtain ⟨requester, filed, verified, found, admin⟩ := exists_requester_of_serves served
  have start : (create accessory host).registry.WellFiled := wellFiled
  refine ⟨requester, filed, verified, found, wellFiled_run suite start events _ _ found, admin,
    fun same rekeyed => ?_, fun kept => ?_⟩
  · obtain ⟨known, there, other⟩ := exists_other_key_of_rekeyed rekeyed
    rw [found] at there
    cases there
    exact other same
  · by_contra other
    exact kept (rekeyed_of_other_key wellFiled verified found other)

/-- Two admins, each on a connection of its own. The second takes the first one out and
pairs its identifier with another key. -/
def rekeying : List Event :=
  [.connect, .connect] ++ Event.pairing 0 "A" Block.zero ++ Event.verification 0 "A" ++
    [Event.management 0 (.add "B" Block.zero .admin)] ++ Event.verification 1 "B" ++
    [Event.management 1 (.remove "A"),
      Event.management 1 (.add "A" (Block.fit 32 [1]) .admin)]

/-- The first admin's old connection goes on listing the pairings. -/
theorem serves_rekeying :
    ((create .lamp .quiet).run .transparent rekeying).Serves .transparent 0 .pairings
      PairingsRequest.list.encode := by
  refine ⟨⟨Management.listReply
    ((create .lamp .quiet).run .transparent rekeying).registry.records, true, false⟩, ?_,
    Management.not_isRefusal_listReply _⟩
  decide +kernel

/-- There the filed key is not the verified one. -/
theorem keys_rekeying :
    ((create .lamp .quiet).run .transparent rekeying).verifiedAs 0 =
        some (Accessory.lamp.recordOf "A" Block.zero .admin) ∧
      ((create .lamp .quiet).run .transparent rekeying).registry.find? "A" =
        some (Accessory.lamp.recordOf "A" (Block.fit 32 [1]) .admin) := by
  decide +kernel

/-- And the pairing has gone and come back, as it must have. -/
theorem rekeyed_rekeying :
    Accessory.lamp.registry.WellFiled ∧
      ((create .lamp .quiet).run .transparent rekeying).Serves .transparent 0 .pairings
        PairingsRequest.list.encode ∧
      Rekeyed .transparent (create .lamp .quiet) 0
        (Accessory.lamp.recordOf "A" Block.zero .admin) rekeying := by
  have empty : Accessory.lamp.registry.WellFiled := Registry.wellFiled_empty
  refine ⟨empty, serves_rekeying, ?_⟩
  obtain ⟨requester, filed, verified, found, _, _, same_iff⟩ :=
    authority_of_serves .transparent .lamp .quiet empty rekeying 0 _ serves_rekeying
  obtain ⟨verified', found'⟩ := keys_rekeying
  cases verified.symm.trans verified'
  cases found.symm.trans found'
  by_contra kept
  exact absurd (same_iff.mpr kept) (by decide)

/-- So a request can be granted to a key that no record has. -/
theorem exists_serves_other_key :
    ¬ ∀ (suite : Suite) (slot : Nat) (config : Config) (identity : Identity) (store : Store)
      (accessory : Accessory) (host : Host) (events : List Event) (i : Nat) (body : Bytes),
      Accessory.create slot config identity store = .ok accessory →
      accessory.isPaired = false →
      ((create accessory host).run suite events).Serves suite i .pairings body →
      ∃ requester, ((create accessory host).run suite events).verifiedAs i = some requester ∧
        ∃ record ∈ ((create accessory host).run suite events).registry.records,
          record.permissions = .admin ∧ record.controllerId = requester.controllerId ∧
            record.publicKey = requester.publicKey := by
  intro always
  obtain ⟨requester, verified, record, filed, _, own, same⟩ :=
    always .transparent 0 Accessory.lamp.config Accessory.lamp.identity Accessory.lamp.store
      .lamp .quiet rekeying 0 _ rfl rfl serves_rekeying
  cases verified.symm.trans keys_rekeying.1
  have apart : ∀ record ∈
      ((create .lamp .quiet).run .transparent rekeying).registry.records,
      record.controllerId = "A" → record.publicKey ≠ Block.zero := by
    decide +kernel
  exact apart record filed own same

end HomePairing.World
