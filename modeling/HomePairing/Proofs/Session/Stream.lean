import HomePairing.Proofs.Session.Frames

/-!
# A stream of frames

What an unbroken sender sends is the frames of its texts, one after another
(`Session.stream`). A reader awaits some of them: its buffer is the beginning of their
frames, and the rest of the frames is in flight (`Session.Awaits`). Decrypting opens the
frames that are whole, in their order, and leaves a reader that awaits the others
(`Session.Awaits.progress`).
-/

namespace HomePairing.Session

/-! ## Sending -/

/-- The frames with the numbers from `counter` on. -/
def stream (suite : Suite) (key : Key) (counter : Nat) (texts : List Bytes) : Bytes :=
  wire (sealings suite key counter texts)

theorem stream_cons {suite : Suite} {key : Key} {counter : Nat}
    (numbered : counter < counterEnd) (text : Bytes) (rest : List Bytes) :
    stream suite key counter (text :: rest) =
      frame suite key counter text ++ stream suite key (counter + 1) rest := by
  rw [stream, sealings_cons suite numbered, wire_cons_sealText]
  rfl

theorem stream_append (suite : Suite) (key : Key) (counter : Nat) (first second : List Bytes) :
    stream suite key counter (first ++ second) =
      stream suite key counter first ++
        stream suite key (counter + first.length) second := by
  rw [stream, sealings_append, wire_append]
  rfl

/-- With numbers for all of its frames a text is sent. -/
theorem encrypt_of_numbered (suite : Suite) {session : Session} {text : Bytes}
    (healthy : session.poisoned = false)
    (numbered : session.outboundCounter + (chunks text).length ≤ counterEnd) :
    session.encrypt suite text =
      ({ session with outboundCounter := session.outboundCounter + (chunks text).length },
        .ok (stream suite session.writeKey session.outboundCounter (chunks text))) := by
  have frames : session.sealed suite text =
      sealings suite session.writeKey session.outboundCounter (chunks text) :=
    if_neg (by simp [healthy])
  have all : (session.sealed suite text).length = (chunks text).length := by
    rw [frames, length_sealings]
    omega
  rw [encrypt_eq, if_neg (by simp [healthy]), if_pos all, all, frames]
  rfl

/-! ## Awaiting frames -/

/-- These texts are still to come: the reader's buffer is the beginning of their frames,
and the rest of the frames is in flight. -/
structure Awaits (suite : Suite) (session : Session) (flight : Bytes) (unread : List Bytes) :
    Prop where
  healthy : session.poisoned = false
  small : ∀ text ∈ unread, text.length ≤ maxPayload
  numbered : session.inboundCounter + unread.length ≤ counterEnd
  cut : session.buffer ++ flight =
    stream suite session.readKey session.inboundCounter unread

/-- The next frame is not whole yet, if there is one. -/
def Drained (suite : Suite) (session : Session) (unread : List Bytes) : Prop :=
  ∀ text ∈ unread.head?,
    session.buffer.length <
      (frame suite session.readKey session.inboundCounter text).length

variable {suite : Suite} {session : Session} {flight : Bytes} {unread : List Bytes}

/-- With everything sent there is nothing in the buffer. -/
theorem Awaits.buffer_nil (awaits : session.Awaits suite flight []) : session.buffer = [] :=
  (List.append_eq_nil_iff.mp awaits.cut).1

/-- There is a number for the next frame. -/
theorem Awaits.room {text : Bytes} {rest : List Bytes}
    (awaits : session.Awaits suite flight (text :: rest)) :
    session.inboundCounter < counterEnd := by
  have := awaits.numbered
  rw [List.length_cons] at this
  omega

/-- With nothing in flight a drained reader has everything. -/
theorem Awaits.unread_nil (awaits : session.Awaits suite [] unread)
    (drained : session.Drained suite unread) : unread = [] := by
  cases unread with
  | nil => rfl
  | cons text rest =>
      have whole := congrArg List.length awaits.cut
      rw [List.append_nil, stream_cons awaits.room, List.length_append] at whole
      have part := drained text rfl
      omega

theorem Awaits.feed {data : Bytes} (awaits : session.Awaits suite (data ++ flight) unread) :
    (session.feed data).Awaits suite flight unread where
  healthy := awaits.healthy
  small := awaits.small
  numbered := awaits.numbered
  cut := (List.append_assoc ..).trans awaits.cut

theorem Awaits.append (awaits : session.Awaits suite flight unread) {more : List Bytes}
    (small : ∀ text ∈ more, text.length ≤ maxPayload)
    (numbered : session.inboundCounter + unread.length + more.length ≤ counterEnd) :
    session.Awaits suite
      (flight ++ stream suite session.readKey (session.inboundCounter + unread.length) more)
      (unread ++ more) where
  healthy := awaits.healthy
  small text listed := (List.mem_append.mp listed).elim (awaits.small text) (small text)
  numbered := by rwa [List.length_append, ← Nat.add_assoc]
  cut := by rw [← List.append_assoc, awaits.cut, stream_append]

/-- What is not a whole frame is not one either with more frames behind it. -/
theorem Awaits.drained_append (seals : suite.Seals) {more : List Bytes}
    (awaits : session.Awaits suite flight unread) (drained : session.Drained suite unread) :
    session.Drained suite (unread ++ more) := by
  cases unread with
  | cons text rest => exact drained
  | nil =>
      intro text _
      rw [awaits.buffer_nil, length_frame seals]
      have : 0 < headerSize := by decide
      exact Nat.lt_of_lt_of_le this (by omega)

/-- What decrypting makes of a reader: of the frames to come those that were whole are
opened, in their order, and the others are still to come. -/
structure Progress (suite : Suite) (session after : Session) (flight : Bytes)
    (unread opened rest : List Bytes) : Prop where
  split : unread = opened ++ rest
  moved : after = { session with
    inboundCounter := session.inboundCounter + opened.length, buffer := after.buffer }
  awaits : after.Awaits suite flight rest
  drained : after.Drained suite rest

/-- A frame that is whole is opened. The buffer goes on behind it, with the others. -/
theorem Awaits.next (seals : suite.Seals) {text : Bytes} {rest : List Bytes}
    (awaits : session.Awaits suite flight (text :: rest))
    (whole : ¬ session.buffer.length <
      (frame suite session.readKey session.inboundCounter text).length) :
    ∃ buffer, buffer.length < session.buffer.length ∧
      let after := { session with inboundCounter := session.inboundCounter + 1, buffer }
      session.decrypt suite = (after, .ok (some text)) ∧ after.Awaits suite flight rest := by
  have cut := awaits.cut
  rw [stream_cons awaits.room] at cut
  obtain ⟨buffer, front⟩ := List.prefix_of_prefix_length_le
    ⟨_, cut.symm⟩ ⟨flight, rfl⟩ (Nat.not_lt.mp whole)
  have less : buffer.length < session.buffer.length := by
    rw [← front, List.length_append, length_frame seals]
    have : 0 < headerSize := by decide
    omega
  refine ⟨buffer, less, ?_, ?_⟩
  · exact decrypt_of_whole seals awaits.healthy (awaits.small text List.mem_cons_self)
      awaits.room front.symm
  · have numbered := awaits.numbered
    rw [List.length_cons, Nat.add_comm rest.length, ← Nat.add_assoc] at numbered
    rw [← front, List.append_assoc] at cut
    exact ⟨awaits.healthy, fun text listed => awaits.small text (List.mem_cons_of_mem _ listed),
      numbered, List.append_cancel_left cut⟩

/-- The induction is on the number of attempts. Every frame opened takes bytes from the
buffer, so there are always enough of them. -/
theorem Awaits.progress (seals : suite.Seals) {count : Nat}
    (awaits : session.Awaits suite flight unread) (enough : session.buffer.length < count) :
    ∃ after opened rest, session.decryptMany suite count = (after, .ok opened.flatten) ∧
      Progress suite session after flight unread opened rest := by
  induction count generalizing session unread with
  | zero => exact absurd enough (Nat.not_lt_zero _)
  | succ count ih =>
      -- An attempt that opens nothing is the last one.
      have stop (waits : session.decrypt suite = (session, .ok none))
          (drained : session.Drained suite unread) :
          ∃ after opened rest,
            session.decryptMany suite (count + 1) = (after, .ok opened.flatten) ∧
              Progress suite session after flight unread opened rest := by
        refine ⟨session, [], unread, ?_, rfl, rfl, awaits, drained⟩
        simp only [decryptMany, waits]
        rfl
      cases unread with
      | nil =>
          have short : session.buffer.length < headerSize := by
            rw [awaits.buffer_nil]
            decide
          exact stop (decrypt_of_short awaits.healthy short) nofun
      | cons text rest =>
          by_cases part : session.buffer.length <
              (frame suite session.readKey session.inboundCounter text).length
          · have cut := awaits.cut
            rw [stream_cons awaits.room] at cut
            refine stop (decrypt_of_part seals awaits.healthy
              (awaits.small text List.mem_cons_self) cut part) ?_
            intro next first
            rw [← Option.some.inj first]
            exact part
          · obtain ⟨buffer, less, opens, others⟩ := awaits.next seals part
            obtain ⟨after, opened, left, decrypts, progress⟩ :=
              ih others (Nat.lt_of_lt_of_le less (Nat.le_of_lt_succ enough))
            refine ⟨after, text :: opened, left, ?_, ?_⟩
            · simp only [decryptMany, opens, decrypts, List.flatten_cons]
            · have moved := progress.moved
              rw [Nat.add_assoc, Nat.add_comm 1] at moved
              exact ⟨congrArg (text :: ·) progress.split, moved, progress.awaits,
                progress.drained⟩

end HomePairing.Session
