import HomePairing.Proofs.Connection.Replies
import HomePairing.Proofs.Store.Durability

/-!
# How Pair-Setup ends

The third request of a Pair-Setup brings the controller's identity. `SetupStage.Brings` says
what is asked of it: sealed under the agreed key, well formed, and signed under the key that
it names. After that one thing can still go wrong, which is filing the record, and it is the
only thing that leaves a trace. Everything that can be refused is refused before, and what is
done after it, signing and sealing the accessory's own identity, cannot fail.

So the request has one of two ends. The pairing is made, and the reply says so
(`SetupStage.Completed`), or all is as it was before the Pair-Setup began
(`SetupStage.Abandoned`). `SetupStage.whole_or_not` tells which of them it is, whatever the
request and whatever becomes of the file.
-/

namespace HomePairing

open Pairing

namespace SetupStage

variable {suite : Suite} {accessory : Accessory} {host : Host} {sessionKey body : Bytes}
  {payload : SetupPayload} (lease : Lease)

/-! ## What the request brings -/

/-- The request brings an identity: it is sealed under the agreed key, and its signature is
that of the key in it. -/
def Brings (suite : Suite) (sessionKey body : Bytes) (payload : SetupPayload) : Prop :=
  ∃ sealed text signature,
    SetupRequest.parse body = .ok (.exchange sealed) ∧
    suite.openMessage (suite.derive .setupEncrypt sessionKey) .setup5 sealed = .ok text ∧
    SetupPayload.decode text = .ok payload ∧
    suite.isSigningPublic payload.publicKey = true ∧
    Block.ofBytes? payload.signature = some signature ∧
    suite.verify payload.publicKey
      (SetupPayload.signed suite .setupControllerSign sessionKey payload.id
        payload.publicKey) signature = true

theorem isSigningPublic_of_openExchange {sealed : Bytes}
    (opened : openExchange suite sessionKey sealed = .ok payload) :
    suite.isSigningPublic payload.publicKey = true := by
  unfold openExchange at opened
  obtain ⟨text, _, rest⟩ := exists_of_bind_eq_ok opened
  obtain ⟨decoded, _, rest⟩ := exists_of_bind_eq_ok rest
  obtain ⟨_, checked, done⟩ := exists_of_bind_eq_ok rest
  cases done
  unfold Suite.checkSignature at checked
  obtain ⟨parsed, isPublic, _⟩ := exists_of_bind_eq_ok checked
  have isPublic := eq_ok_of_mapError_eq_ok isPublic
  unfold Suite.parsePublic at isPublic
  split at isPublic
  · next holds => exact holds
  · cases isPublic

/-- What is asked of an identity is what is looked at, and all of it. -/
theorem brings_iff :
    Brings suite sessionKey body payload ↔
      ∃ sealed, SetupRequest.parse body = .ok (.exchange sealed) ∧
        openExchange suite sessionKey sealed = .ok payload := by
  constructor
  · rintro ⟨sealed, text, signature, parsed, opened, read, isPublic, fits, verified⟩
    refine ⟨sealed, parsed, ?_⟩
    rw [openExchange, opened, mapError_ok, ok_bind, read, ok_bind]
    simp only [Suite.checkSignature, Suite.parsePublic, Suite.parseBlock, isPublic, fits,
      verified, if_true, mapError_ok, ok_bind]
    rfl
  · rintro ⟨sealed, parsed, opened⟩
    obtain ⟨text, signature, unsealed, read, fits, verified⟩ := signed_of_openExchange opened
    exact ⟨sealed, text, signature, parsed, unsealed, read,
      isSigningPublic_of_openExchange opened, fits, verified⟩

theorem Brings.unique {other : SetupPayload} (brings : Brings suite sessionKey body payload)
    (brings' : Brings suite sessionKey body other) : other = payload := by
  obtain ⟨sealed, parsed, opened⟩ := brings_iff.mp brings
  obtain ⟨sealed', parsed', opened'⟩ := brings_iff.mp brings'
  rw [parsed] at parsed'
  cases parsed'
  rw [opened] at opened'
  cases opened'
  rfl

/-! ## The two ends -/

/-- The pairing was made. The reply has the accessory's identity in it and no error, the
controller is filed as an admin and nobody else is touched, the failed proofs are forgotten,
and nothing more is waited for. -/
structure Completed (suite : Suite) (sessionKey : Bytes) (accessory : Accessory)
    (payload : SetupPayload) (outcome : SetupOutcome Bytes) : Prop where
  reply : Tlv.decode outcome.answer = .ok ⟨[⟨Tlv.Tag.state.byte, [6]⟩,
    ⟨Tlv.Tag.encryptedData.byte, sealIdentity suite accessory.identity sessionKey⟩]⟩
  store : outcome.accessory.store =
    accessory.store.withRegistry outcome.accessory.registry
  filed : outcome.accessory.registry.find? payload.id =
    some (accessory.recordOf payload.id payload.publicKey .admin)
  others : ∀ id, id ≠ payload.id →
    outcome.accessory.registry.find? id = accessory.registry.find? id
  attempts : outcome.accessory.failedAttempts = 0
  stage : outcome.stage = done

/-- No pairing was made. The reply has an error in it and no identity, the store and the
count of failed proofs are what they were, and the first request is waited for. -/
structure Abandoned (accessory : Accessory) (outcome : SetupOutcome Bytes) : Prop where
  reply : ∃ code, Tlv.decode outcome.answer =
    .ok ⟨[⟨Tlv.Tag.state.byte, [6]⟩, ⟨Tlv.Tag.error.byte, [code]⟩]⟩
  store : outcome.accessory.store = accessory.store
  attempts : outcome.accessory.failedAttempts = accessory.failedAttempts
  stage : outcome.stage = awaitingStart

theorem decode_exchangeReply (sealed : Bytes) :
    Tlv.decode (exchangeReply sealed) =
      .ok ⟨[⟨Tlv.Tag.state.byte, [6]⟩, ⟨Tlv.Tag.encryptedData.byte, sealed⟩]⟩ := by
  rw [exchangeReply, Tlv.decode_encode_of_distinct (by simp [Tlv.stateField])]
  rfl

/-! ## Where they part -/

/-- The record that the accessory is about to file. -/
def filing (accessory : Accessory) (host : Host) (payload : SetupPayload) :
    Change Store Unit :=
  accessory.store.put host.disk (accessory.recordOf payload.id payload.publicKey .admin)

theorem store_filing_of_ok (filed : (filing accessory host payload).result = .ok ()) :
    (filing accessory host payload).store =
      accessory.store.withRegistry (accessory.registry.insert payload.id
        (accessory.recordOf payload.id payload.publicKey .admin)) := by
  unfold filing at filed ⊢
  rcases accessory.store.put_cases host.disk
      (accessory.recordOf payload.id payload.publicKey .admin) with ⟨_, stored⟩ | ⟨e, failed, _⟩
  · exact stored
  · rw [failed] at filed
    cases filed

theorem store_filing_of_error {e : StoreError}
    (failed : (filing accessory host payload).result = .error e) :
    (filing accessory host payload).store = accessory.store := by
  unfold filing at failed ⊢
  rcases accessory.store.put_cases host.disk
      (accessory.recordOf payload.id payload.publicKey .admin) with ⟨done, _⟩ | ⟨_, _, kept⟩
  · rw [done] at failed
    cases failed
  · exact kept

/-- With an identity that is accepted, the record is filed and the pairing is made. -/
theorem attempt_of_filed (brings : Brings suite sessionKey body payload)
    (filed : (filing accessory host payload).result = .ok ()) :
    (awaitingExchange sessionKey lease).attempt suite accessory host body =
      { stage := done
        accessory := accessory.pairedWith payload lease
        host := { host with disk := (filing accessory host payload).disk }
        answer := .ok (exchangeReply (sealIdentity suite accessory.identity sessionKey)) } := by
  obtain ⟨sealed, parsed, opened⟩ := brings_iff.mp brings
  have stored := store_filing_of_ok filed
  have record : adminRecord accessory payload =
      accessory.recordOf payload.id payload.publicKey .admin := rfl
  rw [attempt, parsed]
  unfold filing at filed stored ⊢
  simp only [process, exchange, opened, Accessory.changeStore, record, filed, stored]
  rfl

/-- Or it is not filed, and the request is refused like any other. -/
theorem attempt_of_unfiled (brings : Brings suite sessionKey body payload) {e : StoreError}
    (failed : (filing accessory host payload).result = .error e) :
    (awaitingExchange sessionKey lease).attempt suite accessory host body =
      refuse (some lease) accessory
        { host with disk := (filing accessory host payload).disk } (.ofStore e) := by
  obtain ⟨sealed, parsed, opened⟩ := brings_iff.mp brings
  have kept := store_filing_of_error failed
  have record : adminRecord accessory payload =
      accessory.recordOf payload.id payload.publicKey .admin := rfl
  rw [attempt, parsed]
  unfold filing at failed kept ⊢
  simp only [process, exchange, opened, Accessory.changeStore, record, failed, kept]

theorem replyState_of_third (third : step? body = some 5) : replyState body = 6 := by
  rw [replyState_eq, third]
  rfl

/-- A third request with nothing acceptable in it is refused before anything is touched. -/
theorem attempt_of_unaccepted (accessory : Accessory) (host : Host)
    (third : step? body = some 5)
    (nothing : ∀ payload, ¬ Brings suite sessionKey body payload) :
    ∃ e, (awaitingExchange sessionKey lease).attempt suite accessory host body =
      refuse (some lease) accessory host e := by
  unfold attempt
  cases parsed : SetupRequest.parse body with
  | error e => exact ⟨e, rfl⟩
  | ok request =>
      have replied := replyState_of_parse parsed
      rw [replyState_of_third third] at replied
      cases request with
      -- The other two requests are answered in other steps.
      | start method => exact absurd replied (by decide : (6 : UInt8) ≠ nextState 1)
      | prove publicKey proof => exact absurd replied (by decide : (6 : UInt8) ≠ nextState 3)
      | exchange sealed =>
          simp only [process, exchange]
          cases opened : openExchange suite sessionKey sealed with
          | error e => exact ⟨e, rfl⟩
          | ok payload => exact absurd (brings_iff.mpr ⟨sealed, parsed, opened⟩) (nothing payload)

/-! ## What is left behind -/

theorem accessory_of_filed (brings : Brings suite sessionKey body payload)
    (filed : (filing accessory host payload).result = .ok ()) :
    ((awaitingExchange sessionKey lease).handle suite accessory host body).accessory =
      accessory.pairedWith payload lease := by
  rw [accessory_handle, attempt_of_filed lease brings filed]

theorem completed_of_filed (brings : Brings suite sessionKey body payload)
    (filed : (filing accessory host payload).result = .ok ()) :
    Completed suite sessionKey accessory payload
      ((awaitingExchange sessionKey lease).handle suite accessory host body) := by
  have attempted := attempt_of_filed lease brings filed
  have paired := accessory_of_filed lease brings filed
  refine ⟨?_, ?_, ?_, ?_, ?_, ?_⟩
  · rw [answer_handle_of_ok host (congrArg SetupOutcome.answer attempted)]
    exact decode_exchangeReply _
  · rw [paired, Accessory.store_pairedWith, Accessory.registry_pairedWith]
  · rw [paired, Accessory.registry_pairedWith, Registry.find?_insert, if_pos rfl]
  · intro id other
    rw [paired, Accessory.registry_pairedWith, Registry.find?_insert, if_neg other]
  · rw [paired, Accessory.failedAttempts_pairedWith]
  · rw [stage_handle, attempted]

theorem setupInProgress_pairedWith {lease : Lease} (own : lease.slot = accessory.slot) :
    (accessory.pairedWith payload lease).setupInProgress = false := by
  unfold Accessory.pairedWith
  exact Accessory.setupInProgress_release own

variable {lease} {after : Host} {e : PairingError}

theorem accessory_of_refused
    (refused : (awaitingExchange sessionKey lease).attempt suite accessory host body =
      refuse (some lease) accessory after e) :
    ((awaitingExchange sessionKey lease).handle suite accessory host body).accessory =
      accessory.release lease := by
  rw [accessory_handle, refused]
  rfl

theorem abandoned_of_refused (third : step? body = some 5)
    (refused : (awaitingExchange sessionKey lease).attempt suite accessory host body =
      refuse (some lease) accessory after e) :
    Abandoned accessory
      ((awaitingExchange sessionKey lease).handle suite accessory host body) := by
  have released : _ = accessory.releaseAll (some lease) := accessory_of_refused refused
  refine ⟨⟨e.code, ?_⟩, ?_, ?_, ?_⟩
  · rw [answer_handle_of_error host (congrArg SetupOutcome.answer refused),
      replyState_of_third third]
    exact decode_errorReply 6 e.code
  · rw [released, Accessory.store_releaseAll]
  · rw [released, Accessory.failedAttempts_releaseAll]
  · rw [stage_handle, refused]
    rfl

/-! ## The file -/

/-- The file of a store holds what the store holds; and if nothing came of the request, it
holds what it held before. -/
def FileFollows (accessory : Accessory) (host : Host) (outcome : SetupOutcome Bytes) : Prop :=
  ∀ path capacity, Archive.Keeps ⟨accessory.store, host.disk, host.entropy⟩ path capacity →
    Archive.Keeps ⟨outcome.accessory.store, outcome.host.disk, outcome.host.entropy⟩ path
        capacity ∧
      (outcome.stage = awaitingStart →
        outcome.host.disk.read path = host.disk.read path)

theorem disk_handle (stage : SetupStage) (accessory : Accessory) (host : Host) (body : Bytes) :
    (stage.handle suite accessory host body).host.disk =
      (stage.attempt suite accessory host body).host.disk := by
  simp only [handle]
  split <;> rfl

/-- Whether the record is filed or not, the file follows the store. -/
theorem effect_filing (payload : SetupPayload) {path : Path} {capacity : Nat}
    (keeps : Archive.Keeps ⟨accessory.store, host.disk, host.entropy⟩ path capacity) :
    Archive.Effect ⟨accessory.store, host.disk, host.entropy⟩ path capacity
      ((filing accessory host payload).result.map fun _ => ())
      ⟨(filing accessory host payload).store, (filing accessory host payload).disk,
        host.entropy⟩ :=
  Archive.effect_carryOut keeps
    (.put (accessory.recordOf payload.id payload.publicKey .admin))

theorem fileFollows_of_filed (lease : Lease) (brings : Brings suite sessionKey body payload)
    (filed : (filing accessory host payload).result = .ok ()) :
    FileFollows accessory host
      ((awaitingExchange sessionKey lease).handle suite accessory host body) := by
  intro path capacity keeps
  have completed := completed_of_filed lease brings filed
  have stored : _ = (filing accessory host payload).store :=
    (congrArg Accessory.store (accessory_of_filed lease brings filed)).trans
      ((accessory.store_pairedWith payload lease).trans (store_filing_of_ok filed).symm)
  have effect := effect_filing payload keeps
  rw [stored, disk_handle, attempt_of_filed lease brings filed, completed.stage]
  exact ⟨effect.keeps, nofun⟩

theorem fileFollows_of_unfiled (lease : Lease) (brings : Brings suite sessionKey body payload)
    {cause : StoreError} (failed : (filing accessory host payload).result = .error cause) :
    FileFollows accessory host
      ((awaitingExchange sessionKey lease).handle suite accessory host body) := by
  intro path capacity keeps
  have refused := attempt_of_unfiled lease brings failed
  have stored : _ = (filing accessory host payload).store :=
    (congrArg Accessory.store (accessory_of_refused refused)).trans
      ((accessory.store_releaseAll (some lease)).trans (store_filing_of_error failed).symm)
  have effect := effect_filing payload keeps
  rw [failed] at effect
  obtain ⟨_, _, read⟩ := effect.kept cause rfl
  rw [stored, disk_handle, refused]
  exact ⟨effect.keeps, fun _ => read⟩

/-- What is refused before anything is filed does not touch the disk. -/
theorem fileFollows_of_untouched
    (refused : (awaitingExchange sessionKey lease).attempt suite accessory host body =
      refuse (some lease) accessory host e) :
    FileFollows accessory host
      ((awaitingExchange sessionKey lease).handle suite accessory host body) := by
  intro path capacity keeps
  have stored : _ = accessory.store :=
    (congrArg Accessory.store (accessory_of_refused refused)).trans
      (accessory.store_releaseAll (some lease))
  rw [stored, disk_handle, refused]
  exact ⟨keeps, fun _ => rfl⟩

/-! ## Whole or not at all -/

/-- The request brings an identity that is filed, or it is refused. -/
theorem filed_or_refused (accessory : Accessory) (host : Host) (lease : Lease)
    (third : step? body = some 5) :
    (∃ payload, Brings suite sessionKey body payload ∧
        (filing accessory host payload).result = .ok ()) ∨
      (∀ payload, Brings suite sessionKey body payload →
          ∃ e, (filing accessory host payload).result = .error e) ∧
        (∃ after e, (awaitingExchange sessionKey lease).attempt suite accessory host body =
          refuse (some lease) accessory after e) ∧
        FileFollows accessory host
          ((awaitingExchange sessionKey lease).handle suite accessory host body) := by
  by_cases accepted : ∃ payload, Brings suite sessionKey body payload
  · obtain ⟨payload, brings⟩ := accepted
    cases result : (filing accessory host payload).result with
    | ok done => exact .inl ⟨payload, brings, result⟩
    | error cause =>
        refine .inr ⟨fun other brings' => ?_, ⟨_, _, attempt_of_unfiled lease brings result⟩,
          fileFollows_of_unfiled lease brings result⟩
        rw [brings.unique brings']
        exact ⟨cause, result⟩
  · have nothing := not_exists.mp accepted
    obtain ⟨e, refused⟩ := attempt_of_unaccepted lease accessory host third nothing
    exact .inr ⟨fun payload brings => absurd brings (nothing payload), ⟨host, e, refused⟩,
      fileFollows_of_untouched refused⟩

/-- A third request to a Pair-Setup that waits for it has one of two ends, whatever its bytes
are and whatever the store makes of the record. If it brings an identity and that can be
filed, the pairing is made; otherwise nothing has happened. The lease is given back either
way, and a store that keeps its records in a file still does. -/
theorem whole_or_not (suite : Suite) (accessory : Accessory) (host : Host)
    (sessionKey : Bytes) (lease : Lease) {body : Bytes} (third : step? body = some 5) :
    let outcome := (awaitingExchange sessionKey lease).handle suite accessory host body
    ((∃ payload, Brings suite sessionKey body payload ∧
          (filing accessory host payload).result = .ok () ∧
          Completed suite sessionKey accessory payload outcome) ∨
        (∀ payload, Brings suite sessionKey body payload →
            ∃ e, (filing accessory host payload).result = .error e) ∧
          Abandoned accessory outcome) ∧
      outcome.stage.lease? = none ∧
      (lease.slot = accessory.slot → outcome.accessory.setupInProgress = false) ∧
      FileFollows accessory host outcome := by
  intro outcome
  rcases filed_or_refused accessory host lease third with
    ⟨payload, brings, filed⟩ | ⟨unfiled, ⟨after, e, refused⟩, follows⟩
  · have completed : Completed suite sessionKey accessory payload outcome :=
      completed_of_filed lease brings filed
    refine ⟨.inl ⟨payload, brings, filed, completed⟩, ?_, fun own => ?_,
      fileFollows_of_filed lease brings filed⟩
    · rw [completed.stage]
      rfl
    · show ((awaitingExchange sessionKey lease).handle suite accessory host
        body).accessory.setupInProgress = false
      rw [accessory_of_filed lease brings filed, setupInProgress_pairedWith own]
  · have abandoned : Abandoned accessory outcome := abandoned_of_refused third refused
    refine ⟨.inr ⟨unfiled, abandoned⟩, ?_, fun own => ?_, follows⟩
    · rw [abandoned.stage]
      rfl
    · show ((awaitingExchange sessionKey lease).handle suite accessory host
        body).accessory.setupInProgress = false
      rw [accessory_of_refused refused, Accessory.setupInProgress_release own]

/-- A lamp in memory is paired. A lamp with a file, whose disk fails to flush the record,
refuses the same request and forgets nothing. -/
theorem whole_or_not_flushFails :
    let lamp := { Accessory.lamp with failedAttempts := 2, setupInProgress := true }
    let filed := { lamp with store := .file ⟨⟨["var", "home", "lamp.json"]⟩, 4, .empty⟩ }
    let failing := { Host.quiet with disk :=
      { Disk.empty with faults := [none, some ⟨.permissionDenied, 4⟩] } }
    let payload : SetupPayload := ⟨"CC:01", Block.zero, (Block.zero : Signature).bytes⟩
    let body := Tlv.encode [Tlv.stateField 5, (.encryptedData,
      Suite.transparent.sealMessage Block.zero .setup5 payload.encode)]
    let stage := awaitingExchange [1] ⟨0⟩
    step? body = some 5 ∧
      (∃ payload, Completed Suite.transparent [1] lamp payload
        (stage.handle Suite.transparent lamp .quiet body)) ∧
      (filing filed failing payload).result = .error (.io .permissionDenied) ∧
      Abandoned filed (stage.handle Suite.transparent filed failing body) ∧
      (stage.handle Suite.transparent filed failing body).accessory.setupInProgress =
        false := by
  intro lamp filed failing payload body stage
  have third : step? body = some 5 := by decide +kernel
  have paired : (stage.handle Suite.transparent lamp .quiet body).stage = done := by
    decide +kernel
  have unpaired : (stage.handle Suite.transparent filed failing body).stage =
      awaitingStart := by decide +kernel
  obtain ⟨ends, _⟩ := whole_or_not Suite.transparent lamp .quiet [1] ⟨0⟩ third
  obtain ⟨ends', _, released, _⟩ := whole_or_not Suite.transparent filed failing [1] ⟨0⟩ third
  have fails : (filing filed failing payload).result = .error (.io .permissionDenied) := by
    decide +kernel
  refine ⟨third, ?_, fails, ?_, released rfl⟩
  · rcases ends with ⟨payload, _, _, completed⟩ | ⟨_, abandoned⟩
    · exact ⟨payload, completed⟩
    · exact absurd (paired.symm.trans abandoned.stage) nofun
  · rcases ends' with ⟨_, _, _, completed⟩ | ⟨_, abandoned⟩
    · exact absurd (completed.stage.symm.trans unpaired) nofun
    · exact abandoned

end SetupStage

end HomePairing
