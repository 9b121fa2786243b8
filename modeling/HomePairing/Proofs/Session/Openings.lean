import HomePairing.Proofs.Session.Frames

/-!
# What a receiver opens

In so many attempts to decrypt a frame a receiver opens some frames, one after another
(`Session.openings`); it counts them, and an error breaks it (`decryptMany_counts`,
`poisoned_of_decryptMany`).

The receiver opens under the nonce of its counter, and every frame of a sender has a
nonce of its own. So if what opens was sealed by the sender at all, it is the frame whose
number is the counter (`Numbered.text_of_opened`), and what is opened in a row is what was
sealed in a row (`Numbered.openings_prefix`).
-/

namespace HomePairing.Session

variable (suite : Suite)

/-! ## What is opened -/

/-- The frames that are opened in so many attempts to decrypt one: the text of each, and
what the cipher opened. -/
def openings (session : Session) : (count : Nat) → List (Bytes × Sealed)
  | 0 => []
  | count + 1 =>
    match session.decrypt suite with
    | (after, .ok (some text)) => (text, session.front) :: openings after count
    | _ => []

/-- After a frame that was opened it goes on with the session behind it. -/
theorem decryptMany_of_opened {session next : Session} {text : Bytes}
    (opens : session.decrypt suite = (next, .ok (some text))) (count : Nat) :
    session.decryptMany suite (count + 1) =
      ((next.decryptMany suite count).1,
        (next.decryptMany suite count).2.map (text ++ ·)) := by
  rcases rest : next.decryptMany suite count with ⟨after, e | others⟩ <;>
    simp only [decryptMany, opens, rest] <;> rfl

/-- What decrypting gives is the texts of the frames opened. -/
theorem texts_of_decryptMany {session : Session} {count : Nat} {texts : Bytes}
    (decrypts : (session.decryptMany suite count).2 = .ok texts) :
    texts = ((session.openings suite count).map Prod.fst).flatten := by
  induction count generalizing session texts with
  | zero =>
      cases decrypts
      rfl
  | succ count ih =>
      rcases first : session.decrypt suite with ⟨next, e | _ | text⟩
      · simp [decryptMany, first] at decrypts
      · simp only [decryptMany, first] at decrypts
        cases decrypts
        rw [openings, first]
        rfl
      · rw [decryptMany_of_opened suite first] at decrypts
        cases rest : (next.decryptMany suite count).2 with
        | error e =>
            rw [rest] at decrypts
            cases decrypts
        | ok others =>
            rw [rest] at decrypts
            cases decrypts
            rw [openings, first, List.map_cons, List.flatten_cons, ← ih rest]

/-- A single attempt is an attempt to decrypt one frame. -/
theorem decryptMany_one (session : Session) :
    (session.decryptMany suite 1).1 = (session.decrypt suite).1 := by
  rcases first : session.decrypt suite with ⟨next, e | _ | text⟩ <;>
    simp only [decryptMany, first]

/-- A broken session opens nothing and stays as it is. -/
theorem decryptMany_of_poisoned {session : Session} (broken : session.poisoned = true)
    (count : Nat) :
    (session.decryptMany suite count).1 = session ∧ session.openings suite count = [] := by
  cases count with
  | zero => exact ⟨rfl, rfl⟩
  | succ count => simp [decryptMany, openings, decrypt, broken]

/-- A receiver keeps its key and counts what it opens. -/
theorem decryptMany_counts (session : Session) (count : Nat) :
    (session.decryptMany suite count).1.readKey = session.readKey ∧
      (session.decryptMany suite count).1.inboundCounter =
        session.inboundCounter + (session.openings suite count).length := by
  induction count generalizing session with
  | zero => exact ⟨rfl, rfl⟩
  | succ count ih =>
      obtain ⟨next, answer, decrypts, receipt⟩ := exists_receipt suite session
      cases receipt with
      | broken | waiting | refused =>
          rw [decryptMany, openings, decrypts]
          exact ⟨rfl, rfl⟩
      | opened =>
          obtain ⟨key, counter⟩ := ih { session with
            inboundCounter := session.inboundCounter + 1
            buffer := session.buffer.drop session.frontSize }
          rw [decryptMany_of_opened suite decrypts, openings, decrypts]
          exact ⟨key, counter.trans (Nat.succ_add_eq_add_succ ..)⟩

/-- An error breaks the session. -/
theorem poisoned_of_decryptMany {session : Session} {count : Nat} {e : SessionError}
    (refuses : (session.decryptMany suite count).2 = .error e) :
    (session.decryptMany suite count).1.poisoned = true := by
  induction count generalizing session with
  | zero => cases refuses
  | succ count ih =>
      obtain ⟨next, answer, decrypts, receipt⟩ := exists_receipt suite session
      cases receipt with
      | broken broken =>
          rw [decryptMany, decrypts]
          exact broken
      | waiting =>
          rw [decryptMany, decrypts] at refuses
          cases refuses
      | refused =>
          rw [decryptMany, decrypts]
      | opened =>
          rw [decryptMany_of_opened suite decrypts] at refuses ⊢
          cases rest : (decryptMany suite _ count).2 with
          | error other =>
              rw [rest] at refuses
              cases refuses
              exact ih rest
          | ok others =>
              rw [rest] at refuses
              cases refuses

/-! ## A sender's log -/

/-- The frames in a log have their places as numbers. -/
structure Numbered (key : Key) (log : List (Bytes × Sealed)) : Prop where
  bounded : log.length ≤ counterEnd
  sealed : ∀ i text frame, log[i]? = some (text, frame) → frame = sealText suite key i text

variable {suite}

theorem sealText_of_getElem?_sealings {key : Key} {counter i : Nat} {texts : List Bytes}
    {text : Bytes} {frame : Sealed}
    (found : (sealings suite key counter texts)[i]? = some (text, frame)) :
    frame = sealText suite key (counter + i) text := by
  induction texts generalizing counter i with
  | nil => cases found
  | cons first rest ih =>
      rw [sealings] at found
      split at found
      · cases found
      · cases i with
        | zero =>
            cases found
            rfl
        | succ i =>
            have := ih found
            rwa [Nat.add_assoc, Nat.add_comm 1] at this

theorem Numbered.append {key : Key} {log : List (Bytes × Sealed)}
    (numbered : Numbered suite key log) (texts : List Bytes) :
    Numbered suite key (log ++ sealings suite key log.length texts) where
  bounded := by
    have := numbered.bounded
    rw [List.length_append, length_sealings]
    omega
  sealed i text frame found := by
    rcases Nat.lt_or_ge i log.length with old | new
    · rw [List.getElem?_append_left old] at found
      exact numbered.sealed i text frame found
    · rw [List.getElem?_append_right new] at found
      have := sealText_of_getElem?_sealings found
      rwa [Nat.add_sub_cancel' new] at this

/-- What a sender seals next, if it is not broken, goes on with the numbers. -/
theorem Numbered.sealed_append {session : Session} {log : List (Bytes × Sealed)}
    (numbered : Numbered suite session.writeKey log)
    (counted : session.outboundCounter = log.length) (text : Bytes) :
    Numbered suite session.writeKey (log ++ session.sealed suite text) := by
  rw [Session.sealed]
  split
  · rw [List.append_nil]
    exact numbered
  · rw [counted]
    exact numbered.append _

/-- If something opens that was sealed it is the frame whose number is the counter: no
other one has its nonce. -/
theorem Numbered.text_of_opened (seals : suite.Seals) {session : Session}
    {log : List (Bytes × Sealed)} {text : Bytes}
    (numbered : Numbered suite session.readKey log)
    (room : session.inboundCounter < counterEnd)
    (opens : suite.decrypt? session.readKey session.front.nonce session.front.aad
      session.front.bytes = some text)
    (listed : session.front ∈ log.map Prod.snd) :
    (log.map Prod.fst)[session.inboundCounter]? = some text := by
  obtain ⟨⟨sent, frame⟩, member, same⟩ := List.mem_map.mp listed
  obtain ⟨i, found⟩ := List.mem_iff_getElem?.mp member
  obtain ⟨inside, _⟩ := List.getElem?_eq_some_iff.mp found
  have sealed : session.front = sealText suite session.readKey i sent :=
    same.symm.trans (numbered.sealed i sent frame found)
  have here : session.inboundCounter = i := by
    have bounded := numbered.bounded
    have last : counterEnd < UInt64.size := by decide
    exact Nonce.ofCounter_injective (by omega) (by omega) (congrArg Sealed.nonce sealed)
  rw [sealed] at opens
  have whole : sent = text := Option.some.inj ((seals.opens ..).symm.trans opens)
  rw [here, List.getElem?_map, found, whole]
  rfl

/-- If a receiver opens only what was sealed it opens the frames one after another, from
its counter on. -/
theorem Numbered.openings_prefix (seals : suite.Seals) {session : Session}
    {log : List (Bytes × Sealed)} (numbered : Numbered suite session.readKey log)
    {count : Nat}
    (listed : ∀ frame ∈ (session.openings suite count).map Prod.snd,
      frame ∈ log.map Prod.snd) :
    (session.openings suite count).map Prod.fst <+:
      (log.map Prod.fst).drop session.inboundCounter := by
  induction count generalizing session with
  | zero => exact List.nil_prefix
  | succ count ih =>
      obtain ⟨next, answer, decrypts, receipt⟩ := exists_receipt suite session
      rw [openings, decrypts] at listed ⊢
      cases receipt with
      | broken | waiting | refused => exact List.nil_prefix
      | opened healthy room opens =>
          have first := numbered.text_of_opened seals room opens
            (listed _ List.mem_cons_self)
          obtain ⟨inside, here⟩ := List.getElem?_eq_some_iff.mp first
          rw [List.drop_eq_getElem_cons inside, here]
          exact List.cons_prefix_cons.mpr
            ⟨rfl, ih numbered fun frame member => listed frame (List.mem_cons_of_mem _ member)⟩

end HomePairing.Session
