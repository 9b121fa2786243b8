import HomePairing.Proofs.Requests.Codes
import HomePairing.Proofs.Runs.World

/-!
# What outsiders learn

Pairings are managed by those whom the store admits, that is, by controllers with an
admin's record in it at that moment. Everybody else is an outsider: one who has not
verified, one whose record was taken out or never there, a plain user.

A request of an outsider is read before anybody asks who has sent it, and the store is not
touched before that has been asked. So what an outsider is told depends on the request and
on nothing else (`Management.outsiders_alike`): neither the records nor the room that is
left can be learned that way, however often it is tried (`Management.answers_alike`). That
a request which can be read is answered with a lack of authentication tells one thing, and
it tells it for certain: that the requester is not admitted (`Management.authentication_iff`).
-/

namespace HomePairing.Management

/-! ## Who is admitted -/

/-- There is an admin's record under the requester's identifier. -/
def Admits (store : Store) (requester : Option String) : Prop :=
  ∃ id record, requester = some id ∧ store.find? id = some record ∧
    record.permissions = .admin

theorem isAdmin_iff {store : Store} {requester : Option String} :
    isAdmin store requester = true ↔ Admits store requester := by
  constructor
  · exact exists_admin_of_isAdmin
  · rintro ⟨id, record, rfl, found, admin⟩
    simp only [isAdmin, found]
    exact (Permissions.isAdmin_iff _).mpr admin

theorem isAdmin_eq_false {store : Store} {requester : Option String}
    (outside : ¬ Admits store requester) : isAdmin store requester = false :=
  Bool.eq_false_iff.mpr fun admin => outside (isAdmin_iff.mp admin)

theorem not_admits_none (store : Store) : ¬ Admits store none := by
  rintro ⟨_, _, named, _⟩
  cases named

/-- A record says what its controller may do. -/
theorem admits_iff_of_find? {store : Store} {id : String} {record : PairingRecord}
    (found : store.find? id = some record) :
    Admits store (some id) ↔ record.permissions = .admin := by
  constructor
  · rintro ⟨_, other, named, found', admin⟩
    cases named
    rw [found] at found'
    cases found'
    exact admin
  · intro admin
    exact ⟨id, record, rfl, found, admin⟩

/-! ## What an outsider is refused for -/

/-- Why a request of an outsider is refused. This is read off the request alone. -/
def outsiderError (body : Bytes) : PairingError :=
  match PairingsRequest.parse body with
  | .ok _ => .notAdmin
  | .error e => e

theorem outsiderError_of_read {body : Bytes} {request : PairingsRequest}
    (read : PairingsRequest.parse body = .ok request) : outsiderError body = .notAdmin := by
  rw [outsiderError, read]

theorem code_outsiderError_of_unread {body : Bytes} {e : PairingError}
    (unread : PairingsRequest.parse body = .error e) :
    (outsiderError body).code = ErrorCode.unknown := by
  rw [outsiderError, unread]
  exact PairingsRequest.code_of_parse unread

variable {accessory : Accessory} {requester : Option String}

theorem attempt_of_outside (outside : ¬ Admits accessory.store requester) (host : Host)
    (body : Bytes) :
    attempt accessory host requester body =
      { accessory, host, answer := .error (outsiderError body) } := by
  unfold attempt outsiderError
  cases PairingsRequest.parse body with
  | error e => rfl
  | ok request =>
      show process accessory host requester request = _
      rw [process, isAdmin_eq_false outside]
      rfl

/-- An outsider leaves a warning behind, and nothing else. -/
theorem handle_of_outside (outside : ¬ Admits accessory.store requester) (host : Host)
    (body : Bytes) :
    handle accessory host requester body =
      { accessory
        host := host.warn
          (.pairingsFailed accessory.pairingId requester (outsiderError body))
        answer := ⟨Pairing.errorReply 2 (outsiderError body).code, []⟩ } := by
  rw [handle, attempt_of_outside outside]

/-! ## One request -/

/-- A request of an outsider changes neither the accessory nor its files, and takes nobody
out. It is answered with an error of the second step whose code depends on the request
alone: a request that can be read lacks authentication, any other is told nothing. So the
answer is the same, byte for byte, whatever is in the store and whichever outsider asks. -/
theorem outsiders_alike (outside : ¬ Admits accessory.store requester) (host : Host)
    (body : Bytes) :
    let outcome := handle accessory host requester body
    let refusal := outsiderError body
    outcome.accessory = accessory ∧
      outcome.host =
        host.warn (.pairingsFailed accessory.pairingId requester refusal) ∧
      outcome.answer = ⟨Pairing.errorReply 2 refusal.code, []⟩ ∧
      (∀ request, PairingsRequest.parse body = .ok request →
        refusal.code = ErrorCode.authentication) ∧
      (∀ e, PairingsRequest.parse body = .error e → refusal.code = ErrorCode.unknown) ∧
      ∀ other otherHost otherRequester, ¬ Admits other.store otherRequester →
        (handle other otherHost otherRequester body).answer = outcome.answer := by
  intro outcome refusal
  have refused : outcome = _ := handle_of_outside outside host body
  refine ⟨?_, ?_, ?_, ?_, ?_, ?_⟩
  · rw [refused]
  · rw [refused]
  · rw [refused]
  · intro request read
    show (outsiderError body).code = _
    rw [outsiderError_of_read read]
    rfl
  · intro e unread
    exact code_outsiderError_of_unread unread
  · intro other otherHost otherRequester otherOutside
    rw [refused, handle_of_outside otherOutside]

/-- A plain user of one lamp asks to be its admin. On a lamp that nobody has paired with,
the same bytes from somebody unverified have the same answer. -/
theorem outsiders_alike_user :
    let admin := Accessory.lamp.recordOf "CC:01" Block.zero .admin
    let user := Accessory.lamp.recordOf "CC:02" Block.zero .user
    let paired := Accessory.lamp.withRegistry
      ((Registry.empty.insert "CC:01" admin).insert "CC:02" user)
    let body := (PairingsRequest.add "CC:02" Block.zero .admin).encode
    ¬ Admits paired.store (some "CC:02") ∧ ¬ Admits Accessory.lamp.store none ∧
      (handle paired .quiet (some "CC:02") body).accessory = paired ∧
      (handle paired .quiet (some "CC:02") body).answer =
        ⟨Pairing.errorReply 2 ErrorCode.authentication, []⟩ ∧
      (handle .lamp .quiet none body).answer =
        (handle paired .quiet (some "CC:02") body).answer := by
  intro admin user paired body
  have plain : paired.store.find? "CC:02" = some user := by decide +kernel
  have outside : ¬ Admits paired.store (some "CC:02") := by
    rw [admits_iff_of_find? plain]
    exact nofun
  have unverified := not_admits_none Accessory.lamp.store
  have read : PairingsRequest.parse body = .ok (.add "CC:02" Block.zero .admin) := by
    decide +kernel
  obtain ⟨kept, _, answered, authentication, _, alike⟩ := outsiders_alike outside .quiet body
  rw [authentication _ read] at answered
  exact ⟨outside, unverified, kept, answered, alike .lamp .quiet none unverified⟩

/-! ## Many requests -/

/-- The answers to requests that come one after another, each with who has sent it. -/
def answers (accessory : Accessory) (host : Host) :
    List (Option String × Bytes) → List PairingsReply
  | [] => []
  | (requester, body) :: rest =>
    let outcome := handle accessory host requester body
    outcome.answer :: answers outcome.accessory outcome.host rest

/-- Outsiders get the same answers everywhere, however many requests they send. -/
theorem answers_alike {accessory other : Accessory} (host otherHost : Host)
    {requests : List (Option String × Bytes)}
    (outside : ∀ request ∈ requests, ¬ Admits accessory.store request.1)
    (otherOutside : ∀ request ∈ requests, ¬ Admits other.store request.1) :
    answers accessory host requests = answers other otherHost requests := by
  induction requests generalizing host otherHost with
  | nil => rfl
  | cons request rest ih =>
      obtain ⟨requester, body⟩ := request
      have first := outside _ List.mem_cons_self
      have otherFirst := otherOutside _ List.mem_cons_self
      -- An outsider leaves the store as it was, so those who come next are still outsiders.
      simp only [answers, handle_of_outside first, handle_of_outside otherFirst]
      rw [ih _ _ (fun request later => outside request (List.mem_cons_of_mem _ later))
        (fun request later => otherOutside request (List.mem_cons_of_mem _ later))]

/-! ## What an answer gives away -/

/-- Why a request is refused: it cannot be read, it comes from an outsider, or the store
does not make the change. -/
inductive Refused (accessory : Accessory) (requester : Option String) (body : Bytes) :
    PairingError → Prop
  | malformed {e} :
      PairingsRequest.parse body = .error e →
      Refused accessory requester body e
  | outside {request} :
      PairingsRequest.parse body = .ok request →
      ¬ Admits accessory.store requester →
      Refused accessory requester body .notAdmin
  | unstored {request cause} :
      PairingsRequest.parse body = .ok request →
      Admits accessory.store requester →
      Refused accessory requester body (.ofStore cause)

theorem exists_ofStore_of_perform {accessory : Accessory} {host : Host} {request : PairingsRequest}
    {e : PairingError} (failed : (perform accessory host request).answer = .error e) :
    ∃ cause, e = .ofStore cause := by
  cases request with
  | add id publicKey permissions =>
      simp only [perform] at failed
      split at failed
      · cases failed
      · next cause _ _ _ =>
          cases failed
          exact ⟨cause, rfl⟩
  | remove id =>
      simp only [perform] at failed
      split at failed
      · cases failed
      · next cause _ _ _ =>
          cases failed
          exact ⟨cause, rfl⟩
  | list => cases failed

theorem refused_of_attempt {host : Host} {body : Bytes} {e : PairingError}
    (failed : (attempt accessory host requester body).answer = .error e) :
    Refused accessory requester body e := by
  by_cases admitted : Admits accessory.store requester
  · cases read : PairingsRequest.parse body with
    | error cause =>
        simp only [attempt, read] at failed
        cases failed
        exact .malformed read
    | ok request =>
        rw [attempt_of_admin host (isAdmin_iff.mpr admitted) read] at failed
        obtain ⟨cause, rfl⟩ := exists_ofStore_of_perform failed
        exact .unstored read admitted
  · rw [attempt_of_outside admitted] at failed
    cases failed
    unfold outsiderError
    cases read : PairingsRequest.parse body with
    | error cause => exact .malformed read
    | ok request => exact .outside read admitted

/-- A store's failure is never told as a lack of authentication. -/
theorem code_ofStore_ne_authentication (cause : StoreError) :
    (PairingError.ofStore cause).code ≠ ErrorCode.authentication := by
  cases cause <;>
    simp [PairingError.ofStore, PairingError.code, PairingError.kind, ErrorCode.unknown,
      ErrorCode.authentication, ErrorCode.maxPeers]

/-- A lack of authentication is told to outsiders only, and to all whose request can be
read. -/
theorem authentication_iff (host : Host) (body : Bytes) :
    (handle accessory host requester body).answer.body =
        Pairing.errorReply 2 ErrorCode.authentication ↔
      (∃ request, PairingsRequest.parse body = .ok request) ∧
        ¬ Admits accessory.store requester := by
  constructor
  · intro told
    have refusal := Pairing.isRefusal_errorReply 2 ErrorCode.authentication
    rw [← told] at refusal
    obtain ⟨e, failed⟩ := (isRefusal_handle_iff accessory host requester body).mp refusal
    simp only [handle, failed] at told
    have code := (Pairing.errorReply_injective told).2
    cases refused_of_attempt failed with
    | malformed unread =>
        rw [PairingsRequest.code_of_parse unread] at code
        cases code
    | outside read outside => exact ⟨⟨_, read⟩, outside⟩
    | unstored _ _ => exact absurd code (code_ofStore_ne_authentication _)
  · rintro ⟨⟨request, read⟩, outside⟩
    rw [handle_of_outside outside, outsiderError_of_read read]
    rfl

end HomePairing.Management
