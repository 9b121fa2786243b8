import HomePairing.Proofs.Requests.Refusal
import HomePairing.Proofs.Store.Update

/-!
# What a request to manage pairings does

`Management.Effect` lists everything such a request can do to an accessory, with all
that was checked on the way; `effect_attempt` says the list is complete. Whoever
reasons about management goes through these four cases and never through the code.
-/

namespace HomePairing

/-- The accessory with other records in its store. -/
def Accessory.withRegistry (accessory : Accessory) (registry : Registry) : Accessory :=
  { accessory with store := accessory.store.withRegistry registry }

def Accessory.registry (accessory : Accessory) : Registry :=
  accessory.store.registry

@[simp] theorem Accessory.registry_withRegistry (accessory : Accessory) (registry : Registry) :
    (accessory.withRegistry registry).registry = registry :=
  accessory.store.registry_withRegistry registry

@[simp] theorem Accessory.withRegistry_registry (accessory : Accessory) :
    accessory.withRegistry accessory.registry = accessory := by
  unfold withRegistry registry
  rw [Store.withRegistry_registry]

theorem Accessory.isPaired_eq_false_iff {accessory : Accessory} :
    accessory.isPaired = false ↔ accessory.registry.isEmpty = true := by
  simp [Accessory.isPaired, Store.isPaired, Accessory.registry]

/-- The record under which an accessory files a controller. -/
def Accessory.recordOf (accessory : Accessory) (id : String) (publicKey : Key)
    (permissions : Permissions) : PairingRecord :=
  { accessoryId := accessory.pairingId, controllerId := id, publicKey, permissions }

namespace Management

/-- What a request leaves behind: the accessory and the answer. -/
inductive Effect (accessory : Accessory) (requester : Option String) (body : Bytes) :
    Accessory → Except PairingError PairingsReply → Prop
  /-- Refused, and nothing has changed. -/
  | refused {e} : Effect accessory requester body accessory (.error e)
  /-- A controller was filed; if it was there before, then with this key. -/
  | added {id publicKey permissions} :
      PairingsRequest.parse body = .ok (.add id publicKey permissions) →
      isAdmin accessory.store requester = true →
      (∀ known, accessory.registry.find? id = some known → known.publicKey = publicKey) →
      Effect accessory requester body
        (accessory.withRegistry
          (accessory.registry.insert id (accessory.recordOf id publicKey permissions)))
        (.ok ⟨doneReply, []⟩)
  /-- A controller was taken out, and everybody with the last admin. -/
  | removed {id} :
      PairingsRequest.parse body = .ok (.remove id) →
      isAdmin accessory.store requester = true →
      Effect accessory requester body
        (accessory.withRegistry (accessory.registry.eraseCascading id).2)
        (.ok ⟨doneReply, (accessory.registry.eraseCascading id).1⟩)
  /-- The controllers were listed. -/
  | listed :
      PairingsRequest.parse body = .ok .list →
      isAdmin accessory.store requester = true →
      Effect accessory requester body accessory (.ok ⟨listReply accessory.store.list, []⟩)

variable (accessory : Accessory) (host : Host) (requester : Option String) (body : Bytes)

/-- Every request has one of these effects. -/
theorem effect_attempt :
    Effect accessory requester body (attempt accessory host requester body).accessory
      (attempt accessory host requester body).answer := by
  unfold attempt
  cases parsed : PairingsRequest.parse body with
  | error e => exact .refused
  | ok request =>
      simp only [process]
      -- Whoever is no admin is refused, whatever the request is.
      by_cases admin : isAdmin accessory.store requester = true
      · rw [if_pos admin]
        cases request with
        | add id publicKey permissions =>
            have outcome := accessory.store.add_cases host.disk
              (accessory.recordOf id publicKey permissions)
            simp only [perform, Accessory.changeStore]
            rcases outcome with ⟨done, stored, sameKey⟩ | ⟨e, failed, kept⟩
            -- The record that is added is written out in the code.
            · simp only [Accessory.recordOf] at done stored
              simp only [done, stored]
              exact .added parsed admin sameKey
            · simp only [Accessory.recordOf] at failed kept
              simp only [failed, kept]
              exact .refused
        | remove id =>
            have outcome := accessory.store.removeCascading_cases host.disk id
            simp only [perform, Accessory.changeStore]
            rcases outcome with ⟨done, stored⟩ | ⟨e, failed, kept⟩
            · simp only [done, stored]
              exact .removed parsed admin
            · simp only [failed, kept]
              exact .refused
        | list => exact .listed parsed admin
      · rw [if_neg admin]
        exact .refused

/-- What an admin asks for is carried out. -/
theorem attempt_of_admin {accessory : Accessory} {requester : Option String} {body : Bytes}
    {request : PairingsRequest} (host : Host) (admin : isAdmin accessory.store requester = true)
    (parsed : PairingsRequest.parse body = .ok request) :
    attempt accessory host requester body = perform accessory host request := by
  simp only [attempt, parsed, process, if_pos admin]

theorem Effect.not_isRefusal {accessory after : Accessory} {requester : Option String}
    {body : Bytes} {reply : PairingsReply}
    (effect : Effect accessory requester body after (.ok reply)) :
    ¬ Pairing.IsRefusal reply.body := by
  cases effect with
  | added _ _ _ => exact not_isRefusal_doneReply
  | removed _ _ => exact not_isRefusal_doneReply
  | listed _ _ => exact not_isRefusal_listReply _

/-- A reply is a refusal exactly if the request was refused. -/
theorem isRefusal_handle_iff :
    Pairing.IsRefusal (handle accessory host requester body).answer.body ↔
      ∃ e, (attempt accessory host requester body).answer = .error e := by
  have effect := effect_attempt accessory host requester body
  unfold handle
  cases answered : (attempt accessory host requester body).answer with
  | error e =>
      simp only [answered]
      exact iff_of_true (Pairing.isRefusal_errorReply 2 e.code) ⟨e, rfl⟩
  | ok reply =>
      rw [answered] at effect
      simp only [answered]
      exact iff_of_false effect.not_isRefusal (by simp)

/-- A controller that is added was there before, or finds room. -/
theorem room_of_added {id : String} {publicKey : Key} {permissions : Permissions}
    (parsed : PairingsRequest.parse body = .ok (.add id publicKey permissions))
    (accepted : (attempt accessory host requester body).answer.isOk = true) :
    (accessory.registry.find? id).isSome = true ∨
      accessory.registry.size < accessory.store.capacity := by
  simp only [attempt, parsed, process] at accepted
  split at accepted
  · simp only [perform] at accepted
    split at accepted
    · next done =>
        exact Store.room_of_add (congrArg Prod.fst done)
    · cases accepted
  · cases accepted

theorem accessory_handle :
    (handle accessory host requester body).accessory =
      (attempt accessory host requester body).accessory := by
  simp only [handle]
  split <;> rfl

/-- With every record under its own identifier, the answer names those whose records went. -/
theorem mem_removed_iff (filed : accessory.registry.WellFiled) (id : String) :
    id ∈ (handle accessory host requester body).answer.removed ↔
      (accessory.registry.find? id).isSome = true ∧
        (handle accessory host requester body).accessory.registry.find? id = none := by
  have effect := effect_attempt accessory host requester body
  -- Who stays in the store is none of those who were taken out of it.
  have stays : ∀ {known : Option PairingRecord}, ¬ (known.isSome = true ∧ known = none) := by
    rintro _ ⟨there, rfl⟩
    cases there
  rw [accessory_handle]
  cases answered : (attempt accessory host requester body).answer with
  | error e =>
      have nobody : (handle accessory host requester body).answer.removed = [] := by
        simp only [handle, answered]
      rw [answered] at effect
      rw [nobody]
      generalize (attempt accessory host requester body).accessory = after at effect
      cases effect with
      | refused => exact iff_of_false List.not_mem_nil stays
  | ok reply =>
      have named : (handle accessory host requester body).answer.removed = reply.removed := by
        simp only [handle, answered]
      rw [answered] at effect
      rw [named]
      generalize (attempt accessory host requester body).accessory = after at effect
      cases effect with
      | added _ _ _ =>
          refine iff_of_false List.not_mem_nil ?_
          rw [Accessory.registry_withRegistry, Registry.find?_insert]
          rintro ⟨there, gone⟩
          split at gone
          · cases gone
          · exact stays ⟨there, gone⟩
      | @removed name _ _ =>
          rw [Accessory.registry_withRegistry]
          exact filed.mem_eraseCascading_iff name id
      | listed _ _ => exact iff_of_false List.not_mem_nil stays

/-- Nobody but a paired admin is let in. -/
theorem exists_admin_of_isAdmin {store : Store} {requester : Option String}
    (h : isAdmin store requester = true) :
    ∃ id record, requester = some id ∧ store.registry.find? id = some record ∧
      record.permissions = .admin := by
  unfold isAdmin at h
  split at h
  · next id =>
      split at h
      · next record found => exact ⟨id, record, rfl, found, (Permissions.isAdmin_iff _).mp h⟩
      · cases h
  · cases h

theorem isAdmin_of_isEmpty {store : Store} (h : store.registry.isEmpty = true)
    (requester : Option String) : isAdmin store requester = false := by
  refine Bool.eq_false_iff.mpr fun admin => ?_
  obtain ⟨id, record, _, found, _⟩ := exists_admin_of_isAdmin admin
  rw [Registry.isEmpty_iff.mp h id] at found
  cases found

namespace Effect

variable {accessory after : Accessory} {requester : Option String} {body : Bytes}
  {answer : Except PairingError PairingsReply}

/-- A request changes nothing but the records. -/
theorem frame (effect : Effect accessory requester body after answer) :
    ∃ registry, after = accessory.withRegistry registry := by
  cases effect with
  | refused => exact ⟨_, accessory.withRegistry_registry.symm⟩
  | added _ _ _ => exact ⟨_, rfl⟩
  | removed _ _ => exact ⟨_, rfl⟩
  | listed _ _ => exact ⟨_, accessory.withRegistry_registry.symm⟩

/-- Nothing comes of a request without an admin's record under the requester's
identifier. -/
theorem eq_of_not_isAdmin (effect : Effect accessory requester body after answer)
    (h : isAdmin accessory.store requester = false) :
    after = accessory ∧ answer.isOk = false := by
  cases effect with
  | refused => exact ⟨rfl, rfl⟩
  | added _ admin _ => rw [h] at admin; cases admin
  | removed _ admin => rw [h] at admin; cases admin
  | listed _ admin => rw [h] at admin; cases admin

theorem isEmpty_of_isEmpty (effect : Effect accessory requester body after answer)
    (empty : accessory.registry.isEmpty = true) : after.registry.isEmpty = true := by
  rw [(effect.eq_of_not_isAdmin (isAdmin_of_isEmpty empty requester)).1]
  exact empty

end Effect

end Management

end HomePairing
