import HomePairing.Proofs.Session.Frames

/-!
# Bytes that arrive in pieces

A receiver is fed some bytes, decrypts as far as it goes (`Session.drain`), is fed the next
ones, and so on (`Session.takeIn`). Whoever sends the bytes, and whatever they are, where they
were cut makes no difference: the same frames are opened, and if something is refused it is the
same for the same reason (`Session.takeIn_recut`).

The reason is that a frame is settled by its own bytes. If the frame at the front of the buffer
is opened or refused then it is so with more bytes behind it (`openFrame_feed`); so whatever
arrives later can just as well be there from the start (`drain_feed`).
-/

namespace HomePairing.Session

/-! ## What a receiver makes of bytes -/

/-- What came of decrypting: the session that is left, the texts of the frames that were opened,
and the errors, in order. -/
structure Reception where
  session : Session
  texts : List Bytes
  errors : List SessionError

namespace Reception

/-- What came of decrypting first here and then there. -/
def followedBy (first later : Reception) : Reception where
  session := later.session
  texts := first.texts ++ later.texts
  errors := first.errors ++ later.errors

/-- Up to the first error two receptions are the same. What comes after it is no more than that
the session is broken. -/
structure Alike (one other : Reception) : Prop where
  texts : one.texts = other.texts
  refusal : one.errors.head? = other.errors.head?
  session : one.errors = [] → one.session = other.session

variable {one other third : Reception}

theorem Alike.rfl : one.Alike one := ⟨Eq.refl _, Eq.refl _, fun _ => Eq.refl _⟩

/-- Both go without an error, or neither does. -/
theorem Alike.errors_nil (alike : one.Alike other) (none : other.errors = []) :
    one.errors = [] := by
  have refusal := alike.refusal
  rw [none] at refusal
  exact List.head?_eq_none_iff.mp refusal

theorem Alike.symm (alike : one.Alike other) : other.Alike one where
  texts := alike.texts.symm
  refusal := alike.refusal.symm
  session none := (alike.session (alike.errors_nil none)).symm

theorem Alike.trans (alike : one.Alike other) (next : other.Alike third) : one.Alike third where
  texts := alike.texts.trans next.texts
  refusal := alike.refusal.trans next.refusal
  session none := (alike.session none).trans (next.session (alike.symm.errors_nil none))

theorem Alike.followedBy (first : Reception) (alike : one.Alike other) :
    (first.followedBy one).Alike (first.followedBy other) where
  texts := congrArg (first.texts ++ ·) alike.texts
  refusal := by
    simp only [Reception.followedBy, List.head?_append, alike.refusal]
  session none := alike.session (List.append_eq_nil_iff.mp none).2

end Reception

variable (suite : Suite) {session after : Session}

/-! ## One frame -/

/-- Whoever waits for more bytes is left as it was. -/
theorem eq_of_waiting (waits : (session.decrypt suite).2 = .ok none) :
    (session.decrypt suite).1 = session := by
  obtain ⟨next, answer, decrypts, receipt⟩ := exists_receipt suite session
  rw [decrypts] at waits ⊢
  cases receipt with
  | waiting _ => rfl
  | broken _ | opened _ _ _ | refused _ => cases waits

/-- Whoever has opened a frame goes on behind it, under the next number. -/
theorem eq_of_opened {text : Bytes} (opens : session.decrypt suite = (after, .ok (some text))) :
    session.poisoned = false ∧
      after = { session with
        inboundCounter := session.inboundCounter + 1
        buffer := session.buffer.drop session.frontSize } := by
  obtain ⟨next, answer, decrypts, receipt⟩ := exists_receipt suite session
  rw [opens] at decrypts
  cases receipt with
  | broken _ | waiting _ | refused _ => cases decrypts
  | opened healthy _ _ =>
      cases decrypts
      exact ⟨healthy, rfl⟩

/-- Nobody answers with an error and stays whole. -/
theorem poisoned_of_refused {e : SessionError}
    (refuses : session.decrypt suite = (after, .error e)) : after.poisoned = true := by
  obtain ⟨next, answer, decrypts, receipt⟩ := exists_receipt suite session
  rw [refuses] at decrypts
  cases receipt with
  | broken broken =>
      cases decrypts
      exact broken
  | refused _ =>
      cases decrypts
      rfl
  | waiting _ | opened _ _ _ => cases decrypts

/-- A frame takes at least its header from the buffer. -/
theorem length_buffer_lt {text : Bytes}
    (opens : session.decrypt suite = (after, .ok (some text))) :
    after.buffer.length < session.buffer.length := by
  obtain ⟨healthy, behind⟩ := eq_of_opened suite opens
  have started : headerSize ≤ session.buffer.length := by
    refine Nat.not_lt.mp fun short => ?_
    rw [decrypt_of_short healthy short] at opens
    cases opens
  have taken : 0 < session.frontSize := by
    rw [frontSize, headerSize]
    omega
  rw [behind, List.length_drop]
  rw [headerSize] at started
  omega

/-- Why the frame with a given number is refused. -/
inductive Refuses (counter : Nat) : SessionError → Prop
  | tooLarge {length} : maxPayload < length → Refuses counter (.frameTooLarge length)
  | unopened : Refuses counter (.decryptionFailed counter)
  /-- There is no such number. -/
  | exhausted : counterEnd ≤ counter → Refuses counter .counterExhausted

theorem refuses_of_openFrame {e : SessionError} (refused : openFrame suite session = .error e) :
    Refuses session.inboundCounter e := by
  rw [openFrame_eq] at refused
  split at refused
  · cases refused
  · split at refused
    · next large =>
        cases refused
        exact .tooLarge large
    · split at refused
      · cases refused
      · split at refused
        · next exhausted =>
            cases refused
            exact .exhausted exhausted
        · split at refused
          · cases refused
          · cases refused
            exact .unopened

theorem refuses_of_decrypt {e : SessionError} (healthy : session.poisoned = false)
    (refuses : session.decrypt suite = (after, .error e)) :
    Refuses session.inboundCounter e := by
  simp only [decrypt, healthy, Bool.false_eq_true, if_false] at refuses
  cases opening : openFrame suite session with
  | error cause =>
      rw [opening] at refuses
      cases refuses
      exact refuses_of_openFrame suite opening
  | ok opened =>
      rw [opening] at refuses
      rcases opened with _ | ⟨text, rest⟩ <;> cases refuses

/-! ## More bytes behind a frame -/

variable (session) in
/-- A header that is there stays what it is. -/
theorem header_feed (started : headerSize ≤ session.buffer.length) (more : Bytes) :
    (session.feed more).front.aad = session.front.aad ∧
      (session.feed more).frontSize = session.frontSize := by
  have header : (session.buffer ++ more).take headerSize = session.buffer.take headerSize :=
    List.take_append_of_le_length started
  refine ⟨header, ?_⟩
  rw [frontSize, frontSize]
  exact congrArg (fun header => headerSize + Bytes.toNatLE header + Aead.tagSize) header

variable (session) in
/-- And so does a whole frame. What comes with it lies behind it. -/
theorem front_feed (whole : session.frontSize ≤ session.buffer.length) (more : Bytes) :
    (session.feed more).front = session.front ∧
      (session.feed more).buffer.drop session.frontSize =
        session.buffer.drop session.frontSize ++ more := by
  have started : headerSize ≤ session.buffer.length := by
    rw [frontSize] at whole
    omega
  obtain ⟨header, size⟩ := header_feed session started more
  have frame : (session.buffer ++ more).take session.frontSize =
      session.buffer.take session.frontSize := List.take_append_of_le_length whole
  refine ⟨?_, List.drop_append_of_le_length whole⟩
  rw [front, front, Sealed.mk.injEq]
  refine ⟨rfl, header, ?_⟩
  rw [size]
  exact congrArg (List.drop headerSize) frame

/-- Where the frame at the front is opened or refused, more bytes behind it make no
difference. -/
theorem openFrame_feed (settled : openFrame suite session ≠ .ok none) (more : Bytes) :
    openFrame suite (session.feed more) =
      (openFrame suite session).map (Option.map fun opened => (opened.1, opened.2 ++ more)) := by
  have long : (session.feed more).buffer.length = session.buffer.length + more.length :=
    List.length_append
  rw [openFrame_eq] at settled ⊢
  rw [openFrame_eq]
  by_cases short : session.buffer.length < headerSize
  · rw [if_pos short] at settled
    exact absurd rfl settled
  · have started : ¬ (session.feed more).buffer.length < headerSize := by omega
    obtain ⟨header, size⟩ := header_feed session (Nat.not_lt.mp short) more
    rw [if_neg short] at settled ⊢
    rw [if_neg started, header, size]
    by_cases large : Bytes.toNatLE session.front.aad > maxPayload
    · rw [if_pos large, if_pos large]
      rfl
    · rw [if_neg large] at settled ⊢
      rw [if_neg large]
      by_cases part : session.buffer.length < session.frontSize
      · rw [if_pos part] at settled
        exact absurd rfl settled
      · have whole : ¬ (session.feed more).buffer.length < session.frontSize := by omega
        obtain ⟨same, behind⟩ := front_feed session (Nat.not_lt.mp part) more
        rw [if_neg part, if_neg whole, same, behind]
        by_cases exhausted : session.inboundCounter ≥ counterEnd
        · rw [if_pos exhausted]
          exact if_pos exhausted
        · rw [if_neg exhausted]
          refine (if_neg exhausted).trans ?_
          -- Both attempts are made on the same bytes.
          cases opens : suite.decrypt? session.readKey session.front.nonce session.front.aad
              session.front.bytes with
          | some text =>
              simp only [feed, opens]
              rfl
          | none =>
              simp only [feed, opens]
              rfl

theorem decrypt_feed_of_opened {text : Bytes}
    (opens : session.decrypt suite = (after, .ok (some text))) (more : Bytes) :
    (session.feed more).decrypt suite = (after.feed more, .ok (some text)) := by
  obtain ⟨healthy, _⟩ := eq_of_opened suite opens
  have whole : (session.feed more).poisoned = false := healthy
  simp only [decrypt, healthy, Bool.false_eq_true, if_false] at opens
  rcases opening : openFrame suite session with e | _ | ⟨found, rest⟩
  · rw [opening] at opens
    cases opens
  · rw [opening] at opens
    cases opens
  · have longer := openFrame_feed suite (by rw [opening]; simp) more
    rw [opening] at opens longer
    cases opens
    simp only [decrypt, whole, Bool.false_eq_true, if_false, longer]
    rfl

theorem decrypt_feed_of_refused {e : SessionError}
    (refuses : session.decrypt suite = (after, .error e)) (more : Bytes) :
    ((session.feed more).decrypt suite).2 = .error e := by
  by_cases broken : session.poisoned = true
  · have still : (session.feed more).poisoned = true := broken
    simp only [decrypt, broken, if_true] at refuses
    simp only [decrypt, still, if_true]
    cases refuses
    rfl
  · have healthy : session.poisoned = false := Bool.eq_false_iff.mpr broken
    have whole : (session.feed more).poisoned = false := healthy
    simp only [decrypt, healthy, Bool.false_eq_true, if_false] at refuses
    rcases opening : openFrame suite session with cause | _ | ⟨found, rest⟩
    · have longer := openFrame_feed suite (by rw [opening]; simp) more
      rw [opening] at refuses longer
      cases refuses
      simp only [decrypt, whole, Bool.false_eq_true, if_false, longer]
      rfl
    · rw [opening] at refuses
      cases refuses
    · rw [opening] at refuses
      cases refuses

/-! ## As far as it goes -/

/-- Decrypt frame after frame, until there is none or one is refused. -/
def drain (session : Session) : Reception :=
  match decrypted : session.decrypt suite with
  | (after, .ok none) => ⟨after, [], []⟩
  | (after, .error e) => ⟨after, [], [e]⟩
  | (after, .ok (some text)) =>
    have : after.buffer.length < session.buffer.length := length_buffer_lt suite decrypted
    Reception.followedBy ⟨after, [text], []⟩ (drain after)
termination_by session.buffer.length

theorem drain_of_refused {e : SessionError}
    (refuses : session.decrypt suite = (after, .error e)) :
    session.drain suite = ⟨after, [], [e]⟩ := by
  rw [drain]
  split <;> simp_all

theorem drain_of_opened {text : Bytes}
    (opens : session.decrypt suite = (after, .ok (some text))) :
    session.drain suite = Reception.followedBy ⟨after, [text], []⟩ (after.drain suite) := by
  rw [drain]
  split <;> simp_all

/-- A broken session gives nothing. -/
theorem drain_of_poisoned (broken : session.poisoned = true) :
    session.drain suite = ⟨session, [], [.poisoned]⟩ :=
  drain_of_refused suite (by rw [decrypt, if_pos broken])

/-- Bytes that come after everything was decrypted can be there from the start. -/
theorem drain_feed (session : Session) (more : Bytes) :
    ((session.feed more).drain suite).Alike
      ((session.drain suite).followedBy (((session.drain suite).session.feed more).drain suite)) := by
  fun_induction drain suite session with
  | case1 session after waits =>
      have same : after = session := by
        have left := eq_of_waiting suite (congrArg Prod.snd waits)
        rwa [waits] at left
      rw [same]
      exact .rfl
  | case2 session after e refuses =>
      rcases longer : (session.feed more).decrypt suite with ⟨next, answer⟩
      have answers : answer = .error e := by
        have refused := decrypt_feed_of_refused suite refuses more
        rwa [longer] at refused
      subst answers
      have broken : after.poisoned = true := poisoned_of_refused suite refuses
      have still : (after.feed more).poisoned = true := broken
      rw [drain_of_refused suite longer, drain_of_poisoned suite still]
      exact ⟨rfl, rfl, nofun⟩
  | case3 session after text opens _ ih =>
      rw [drain_of_opened suite (decrypt_feed_of_opened suite opens more)]
      exact ih.followedBy ⟨after.feed more, [text], []⟩

/-- What is refused in the end is the frame after those that were opened. -/
theorem refuses_of_drain (healthy : session.poisoned = false) :
    ∀ e ∈ (session.drain suite).errors,
      Refuses (session.inboundCounter + (session.drain suite).texts.length) e := by
  fun_induction drain suite session with
  | case1 session after waits => nofun
  | case2 session after e refuses =>
      intro error listed
      rw [List.mem_singleton.mp listed]
      exact refuses_of_decrypt suite healthy refuses
  | case3 session after text opens _ ih =>
      obtain ⟨_, behind⟩ := eq_of_opened suite opens
      subst behind
      intro e listed
      have later := ih healthy e listed
      rwa [Nat.add_assoc, Nat.add_comm 1] at later

/-! ## Piece after piece -/

/-- Take in pieces one after another, each decrypted as far as it goes. -/
def takeIn (session : Session) : List Bytes → Reception
  | [] => ⟨session, [], []⟩
  | piece :: rest =>
    let first := (session.feed piece).drain suite
    first.followedBy (takeIn first.session rest)

/-- Pieces come to the same as all their bytes at once. The induction is on the pieces after
the first one; without a first one nothing would be decrypted at all. -/
theorem takeIn_cons (session : Session) (piece : Bytes) (rest : List Bytes) :
    (session.takeIn suite (piece :: rest)).Alike
      ((session.feed (piece :: rest).flatten).drain suite) := by
  induction rest generalizing session piece with
  | nil =>
      have alone : (session.feed [piece].flatten) = session.feed piece := by
        rw [List.flatten_singleton]
      rw [alone, takeIn, takeIn]
      exact ⟨List.append_nil _, by simp [Reception.followedBy], fun _ => rfl⟩
  | cons next rest ih =>
      have together : (session.feed (piece :: next :: rest).flatten) =
          (session.feed piece).feed (next :: rest).flatten := by
        simp only [feed, List.flatten_cons, List.append_assoc]
      rw [together, takeIn]
      exact ((ih _ next).followedBy _).trans (drain_feed suite _ _).symm

/-- Whatever bytes arrive, and however they are cut into pieces: with every piece decrypted as
far as it goes the same texts come out, and the same first error if there is one; without an
error the session is left the same. An unbroken session refuses the frame after those that it
has opened, for what its header says or because it does not open. And whoever waits for the
rest of a frame is left as it was. -/
theorem takeIn_recut (session : Session) {one other : List Bytes} (filled : one ≠ [])
    (filled' : other ≠ []) (same : one.flatten = other.flatten) :
    let first := session.takeIn suite one
    let second := session.takeIn suite other
    first.texts = second.texts ∧ first.errors.head? = second.errors.head? ∧
      (first.errors = [] → first.session = second.session) ∧
      (session.poisoned = false → ∀ e ∈ first.errors.head?,
        Refuses (session.inboundCounter + first.texts.length) e) ∧
      ∀ receiver : Session, (receiver.decrypt suite).2 = .ok none →
        (receiver.decrypt suite).1 = receiver := by
  intro first second
  obtain ⟨piece, rest, rfl⟩ := List.exists_cons_of_ne_nil filled
  obtain ⟨piece', rest', rfl⟩ := List.exists_cons_of_ne_nil filled'
  have whole := takeIn_cons suite session piece rest
  have whole' := takeIn_cons suite session piece' rest'
  rw [← same] at whole'
  have alike : first.Alike second := whole.trans whole'.symm
  refine ⟨alike.texts, alike.refusal, alike.session, ?_, ?_⟩
  · intro healthy e refused
    have refusals := refuses_of_drain suite
      (show (session.feed (piece :: rest).flatten).poisoned = false from healthy)
    rw [whole.refusal] at refused
    rw [whole.texts]
    exact refusals e (List.mem_of_mem_head? refused)
  · intro receiver waits
    exact eq_of_waiting suite waits

/-- A frame and after it the header of a frame that is too large, all at once and in pieces
that cut both headers. -/
theorem takeIn_recut_oversized :
    let key : Key := Block.fit 32 [1]
    let session := create key Block.zero
    let sent := frame Suite.standard key 0 [1, 2]
    let one := [sent ++ [255, 255, 7]]
    let other := [[], sent.take 1, sent.drop 1 ++ [255], [255], [7]]
    one ≠ [] ∧ other ≠ [] ∧ one.flatten = other.flatten ∧ session.poisoned = false ∧
      (session.takeIn Suite.standard one).texts = [[1, 2]] ∧
      (session.takeIn Suite.standard other).texts = [[1, 2]] ∧
      (session.takeIn Suite.standard other).errors.head? = some (.frameTooLarge 65535) ∧
      Refuses 1 (.frameTooLarge 65535) := by
  intro key session sent one other
  have someOne : one ≠ [] := nofun
  have someOther : other ≠ [] := nofun
  have same : one.flatten = other.flatten := by decide +kernel
  have opened : (session.takeIn Suite.standard one).texts = [[1, 2]] := by decide +kernel
  have refused : (session.takeIn Suite.standard one).errors = [.frameTooLarge 65535] := by
    decide +kernel
  obtain ⟨texts, errors, _, refuses, _⟩ :=
    takeIn_recut Suite.standard session someOne someOther same
  rw [opened, refused] at refuses
  rw [opened] at texts
  rw [refused] at errors
  exact ⟨someOne, someOther, same, rfl, opened, texts.symm, errors.symm, refuses rfl _ rfl⟩

end HomePairing.Session
