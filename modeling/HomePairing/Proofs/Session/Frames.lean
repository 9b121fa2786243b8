import HomePairing.Proofs.Crypto.Laws
import HomePairing.Session

/-!
# Frames

Sending cuts a text into the texts of frames (`flatten_chunks`), seals each under the
number it gets, and stops where there are no numbers left (`sendFrames_eq`). Receiving
looks at the front of the buffer: it waits for the rest of a frame, opens the frame, or
breaks the session for good (`Receipt`).

An honest frame is opened as soon as it is whole (`decrypt_of_whole`), and until then
nothing happens (`decrypt_of_part`).
-/

namespace HomePairing

/-- A frame as the cipher has it: the nonce, what is authenticated beside the text, and the
sealed text. -/
structure Sealed where
  nonce : Nonce
  aad : Bytes
  bytes : Bytes
deriving DecidableEq

namespace Session

/-! ## Headers and texts -/

@[simp] theorem length_header (text : Bytes) : (header text).length = headerSize :=
  Bytes.length_ofNatLE ..

/-- A header says how long its text is. -/
theorem toNatLE_header {text : Bytes} (small : text.length ≤ maxPayload) :
    Bytes.toNatLE (header text) = text.length := by
  have fits : text.length < Nat.pow 256 headerSize :=
    Nat.lt_of_le_of_lt small (by decide)
  rw [header, Bytes.toNatLE_ofNatLE, Nat.mod_eq_of_lt fits]

/-- Nothing is lost where a text is cut. -/
theorem flatten_chunks (text : Bytes) : (chunks text).flatten = text := by
  fun_induction chunks text with
  | case1 text empty => rw [List.isEmpty_iff.mp empty]; rfl
  | case2 text nonempty ih => rw [List.flatten_cons, ih, List.take_append_drop]

theorem length_le_of_mem_chunks {text piece : Bytes} (h : piece ∈ chunks text) :
    piece.length ≤ maxPayload := by
  fun_induction chunks text with
  | case1 text empty => cases h
  | case2 text nonempty ih =>
      rcases List.mem_cons.mp h with first | later
      · rw [first]
        exact List.length_take_le _ _
      · exact ih later

variable (suite : Suite)

/-! ## Sending -/

/-- What becomes of the text of the frame with a given number. -/
def sealText (key : Key) (counter : Nat) (text : Bytes) : Sealed :=
  ⟨Nonce.ofCounter counter, header text,
    suite.encrypt key (Nonce.ofCounter counter) (header text) text⟩

/-- The texts that are sealed under the numbers from `counter` on, as long as there are
numbers, and what becomes of each. -/
def sealings (key : Key) : (counter : Nat) → List Bytes → List (Bytes × Sealed)
  | _, [] => []
  | counter, text :: rest =>
    if counter ≥ counterEnd then []
    else (text, sealText suite key counter text) :: sealings key (counter + 1) rest

/-- What goes out: a frame for everything that was sealed. -/
def wire (frames : List (Bytes × Sealed)) : Bytes :=
  frames.flatMap fun (_, sealed) => sealed.aad ++ sealed.bytes

theorem wire_append (first second : List (Bytes × Sealed)) :
    wire (first ++ second) = wire first ++ wire second :=
  List.flatMap_append

theorem wire_cons_sealText (key : Key) (counter : Nat) (text : Bytes)
    (frames : List (Bytes × Sealed)) :
    wire ((text, sealText suite key counter text) :: frames) =
      frame suite key counter text ++ wire frames := rfl

theorem sealings_cons {key : Key} {counter : Nat} (numbered : counter < counterEnd)
    (text : Bytes) (rest : List Bytes) :
    sealings suite key counter (text :: rest) =
      (text, sealText suite key counter text) :: sealings suite key (counter + 1) rest :=
  if_neg (Nat.not_le.mpr numbered)

/-- Without numbers nothing is sealed. -/
theorem sealings_of_exhausted (key : Key) {counter : Nat} (exhausted : counter ≥ counterEnd)
    (texts : List Bytes) : sealings suite key counter texts = [] := by
  cases texts with
  | nil => rfl
  | cons text rest => exact if_pos exhausted

theorem sealings_append (key : Key) (counter : Nat) (first second : List Bytes) :
    sealings suite key counter (first ++ second) =
      sealings suite key counter first ++
        sealings suite key (counter + first.length) second := by
  induction first generalizing counter with
  | nil => rfl
  | cons text rest ih =>
      by_cases exhausted : counter ≥ counterEnd
      · have beyond : counter + (text :: rest).length ≥ counterEnd :=
          Nat.le_add_right_of_le exhausted
        rw [sealings_of_exhausted suite key exhausted, sealings_of_exhausted suite key exhausted,
          sealings_of_exhausted suite key beyond, List.nil_append]
      · rw [List.cons_append, sealings_cons suite (Nat.not_le.mp exhausted), ih,
          sealings_cons suite (Nat.not_le.mp exhausted), List.length_cons,
          Nat.add_right_comm, Nat.add_assoc counter]
        rfl

theorem length_sealings (key : Key) (counter : Nat) (texts : List Bytes) :
    (sealings suite key counter texts).length = min texts.length (counterEnd - counter) := by
  induction texts generalizing counter with
  | nil => simp [sealings]
  | cons text rest ih =>
      unfold sealings
      split
      · simp only [List.length_nil]
        omega
      · simp only [List.length_cons, ih]
        omega

/-- Sending moves the counter by what was sealed, and sends it if it is everything. -/
theorem sendFrames_eq (session : Session) (texts : List Bytes) :
    let frames := sealings suite session.writeKey session.outboundCounter texts
    sendFrames suite session texts =
      ({ session with outboundCounter := session.outboundCounter + frames.length },
        if frames.length = texts.length then .ok (wire frames)
        else .error .counterExhausted) := by
  induction texts generalizing session with
  | nil => rfl
  | cons text rest ih =>
      by_cases exhausted : session.outboundCounter ≥ counterEnd
      · simp [sendFrames, sealings, exhausted]
      · have rest_sent :=
          ih { session with outboundCounter := session.outboundCounter + 1 }
        simp only at rest_sent
        simp only [sendFrames, if_neg exhausted, rest_sent,
          sealings_cons suite (Nat.not_le.mp exhausted), List.length_cons,
          Nat.add_right_cancel_iff, Nat.add_right_comm _ 1, Nat.add_assoc]
        -- The rest went out or it did not; so does the whole.
        by_cases whole : (sealings suite session.writeKey (session.outboundCounter + 1)
            rest).length = rest.length
        · simp only [if_pos whole, wire_cons_sealText]
        · simp only [if_neg whole]

/-- The frames that a session seals for a text. -/
def sealed (session : Session) (text : Bytes) : List (Bytes × Sealed) :=
  if session.poisoned then []
  else sealings suite session.writeKey session.outboundCounter (chunks text)

/-- The counter goes on by what was sealed, which is what goes out if it is all. -/
theorem encrypt_eq (session : Session) (text : Bytes) :
    session.encrypt suite text =
      ({ session with
          outboundCounter := session.outboundCounter + (session.sealed suite text).length },
        if session.poisoned then .error .poisoned
        else if (session.sealed suite text).length = (chunks text).length then
          .ok (wire (session.sealed suite text))
        else .error .counterExhausted) := by
  unfold encrypt sealed
  split
  · rfl
  · exact sendFrames_eq suite session (chunks text)

/-! ## Receiving -/

/-- How many bytes the frame at the front of the buffer takes, by its header. -/
def frontSize (session : Session) : Nat :=
  headerSize + Bytes.toNatLE (session.buffer.take headerSize) + Aead.tagSize

/-- What the cipher is asked to open next. -/
def front (session : Session) : Sealed :=
  ⟨Nonce.ofCounter session.inboundCounter, session.buffer.take headerSize,
    (session.buffer.take session.frontSize).drop headerSize⟩

/-- Reading a frame, in these words. -/
theorem openFrame_eq (session : Session) :
    openFrame suite session =
      if session.buffer.length < headerSize then .ok none
      else if Bytes.toNatLE session.front.aad > maxPayload then
        .error (.frameTooLarge (Bytes.toNatLE session.front.aad))
      else if session.buffer.length < session.frontSize then .ok none
      else if session.inboundCounter ≥ counterEnd then .error .counterExhausted
      else
        match suite.decrypt? session.readKey session.front.nonce session.front.aad
            session.front.bytes with
        | some text => .ok (some (text, session.buffer.drop session.frontSize))
        | none => .error (.decryptionFailed session.inboundCounter) := rfl

/-- What a session leaves behind that is to decrypt a frame, and its answer. -/
inductive Receipt (session : Session) :
    Session → Except SessionError (Option Bytes) → Prop
  /-- The session was broken before. -/
  | broken : session.poisoned = true → Receipt session session (.error .poisoned)
  /-- The frame at the front is not whole. -/
  | waiting : session.poisoned = false → Receipt session session (.ok none)
  | opened {text} : session.poisoned = false → session.inboundCounter < counterEnd →
      suite.decrypt? session.readKey session.front.nonce session.front.aad
        session.front.bytes = some text →
      Receipt session
        { session with
          inboundCounter := session.inboundCounter + 1
          buffer := session.buffer.drop session.frontSize }
        (.ok (some text))
  /-- The frame is refused, and the session broken. -/
  | refused {e} : session.poisoned = false →
      Receipt session { session with poisoned := true, buffer := [] } (.error e)

/-- Every attempt to decrypt a frame has one of these results. -/
theorem exists_receipt (session : Session) :
    ∃ after answer, session.decrypt suite = (after, answer) ∧
      Receipt suite session after answer := by
  refine ⟨(session.decrypt suite).1, (session.decrypt suite).2, rfl, ?_⟩
  rw [decrypt]
  by_cases broken : session.poisoned = true
  · rw [if_pos broken]
    exact .broken broken
  · rw [if_neg broken, openFrame_eq]
    have healthy : session.poisoned = false := Bool.eq_false_iff.mpr broken
    by_cases short : session.buffer.length < headerSize
    · rw [if_pos short]
      exact .waiting healthy
    · rw [if_neg short]
      by_cases large : Bytes.toNatLE session.front.aad > maxPayload
      · rw [if_pos large]
        exact .refused healthy
      · rw [if_neg large]
        by_cases part : session.buffer.length < session.frontSize
        · rw [if_pos part]
          exact .waiting healthy
        · rw [if_neg part]
          by_cases exhausted : session.inboundCounter ≥ counterEnd
          · rw [if_pos exhausted]
            exact .refused healthy
          · rw [if_neg exhausted]
            cases answer : suite.decrypt? session.readKey session.front.nonce
                session.front.aad session.front.bytes with
            | none => exact .refused healthy
            | some text => exact .opened healthy (Nat.not_le.mp exhausted) answer

/-! ## Honest frames -/

variable {suite}

theorem length_frame (seals : suite.Seals) (key : Key) (counter : Nat) (text : Bytes) :
    (frame suite key counter text).length = headerSize + text.length + Aead.tagSize := by
  rw [frame, List.length_append, length_header, seals.length_encrypt, Nat.add_assoc]

/-- Without a header there is nothing to decrypt. -/
theorem decrypt_of_short {session : Session} (healthy : session.poisoned = false)
    (short : session.buffer.length < headerSize) :
    session.decrypt suite = (session, .ok none) := by
  simp only [decrypt, healthy, Bool.false_eq_true, if_false, openFrame_eq, if_pos short]

/-- As soon as a header is there it says how long the frame is. -/
theorem frontSize_of_cut (seals : suite.Seals) {session : Session} {text flight more : Bytes}
    (small : text.length ≤ maxPayload)
    (cut : session.buffer ++ flight =
      frame suite session.readKey session.inboundCounter text ++ more)
    (started : headerSize ≤ session.buffer.length) :
    session.front.aad = header text ∧
      session.frontSize =
        (frame suite session.readKey session.inboundCounter text).length := by
  have headed : session.front.aad = header text := calc
    session.buffer.take headerSize = (session.buffer ++ flight).take headerSize :=
      (List.take_append_of_le_length started).symm
    _ = header text := by
      rw [cut, frame, List.append_assoc, List.take_left' (length_header text)]
  refine ⟨headed, ?_⟩
  rw [frontSize, show session.buffer.take headerSize = header text from headed,
    toNatLE_header small, length_frame seals]

/-- A frame that is not whole is waited for. -/
theorem decrypt_of_part (seals : suite.Seals) {session : Session} {text flight more : Bytes}
    (healthy : session.poisoned = false) (small : text.length ≤ maxPayload)
    (cut : session.buffer ++ flight =
      frame suite session.readKey session.inboundCounter text ++ more)
    (part : session.buffer.length <
      (frame suite session.readKey session.inboundCounter text).length) :
    session.decrypt suite = (session, .ok none) := by
  by_cases short : session.buffer.length < headerSize
  · exact decrypt_of_short healthy short
  · obtain ⟨headed, size⟩ := frontSize_of_cut seals small cut (Nat.not_lt.mp short)
    have waits : openFrame suite session = .ok none := by
      rw [openFrame_eq, if_neg short, headed, toNatLE_header small,
        if_neg (Nat.not_lt.mpr small), size, if_pos part]
    simp only [decrypt, healthy, Bool.false_eq_true, if_false, waits]

/-- A whole frame is opened, and the buffer goes on behind it. -/
theorem decrypt_of_whole (seals : suite.Seals) {session : Session} {text rest : Bytes}
    (healthy : session.poisoned = false) (small : text.length ≤ maxPayload)
    (numbered : session.inboundCounter < counterEnd)
    (whole : session.buffer =
      frame suite session.readKey session.inboundCounter text ++ rest) :
    session.decrypt suite =
      ({ session with inboundCounter := session.inboundCounter + 1, buffer := rest },
        .ok (some text)) := by
  have long : (frame suite session.readKey session.inboundCounter text).length ≤
      session.buffer.length := by
    rw [whole, List.length_append]
    exact Nat.le_add_right ..
  have started : headerSize ≤ session.buffer.length := by
    rw [length_frame seals] at long
    omega
  obtain ⟨headed, size⟩ := frontSize_of_cut seals small
    ((List.append_nil _).trans whole) started
  have body : session.front.bytes = suite.encrypt session.readKey
      (Nonce.ofCounter session.inboundCounter) (header text) text := by
    show (session.buffer.take session.frontSize).drop headerSize = _
    rw [size, whole, List.take_left' rfl, frame, List.drop_left' (length_header text)]
  have behind : session.buffer.drop session.frontSize = rest := by
    rw [size, whole, List.drop_left' rfl]
  have opens : openFrame suite session = .ok (some (text, rest)) := by
    rw [openFrame_eq, if_neg (Nat.not_lt.mpr started), headed, toNatLE_header small,
      if_neg (Nat.not_lt.mpr small), size, if_neg (Nat.not_lt.mpr long),
      if_neg (Nat.not_le.mpr numbered), body, ← size, behind]
    simp only [show session.front.nonce = Nonce.ofCounter session.inboundCounter from rfl,
      seals.opens]
  simp only [decrypt, healthy, Bool.false_eq_true, if_false, opens]

end Session

end HomePairing
