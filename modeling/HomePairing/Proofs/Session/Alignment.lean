import HomePairing.Proofs.Session.Stream

/-!
# Two ends in step

One end of a session follows the other if it has read everything that the other has written
(`Session.Follows`). With numbers for all of its frames, a text that is sent is then read whole
and at once, and nothing is left over (`Session.Follows.transfer`). If both ends follow each other
they still do after a text in either direction (`Session.Aligned.transferred`).
-/

namespace HomePairing.Session

variable {suite : Suite} {reader writer : Session}

/-- One end has read all that the other has written, and holds nothing else. -/
structure Follows (reader writer : Session) : Prop where
  key : reader.readKey = writer.writeKey
  counted : reader.inboundCounter = writer.outboundCounter
  drained : reader.buffer = []
  healthy : reader.poisoned = false

/-- The two ends of a session, with nothing on the way between them. -/
structure Aligned (one other : Session) : Prop where
  follows : one.Follows other
  followed : other.Follows one

theorem Aligned.symm (aligned : reader.Aligned writer) : writer.Aligned reader :=
  ⟨aligned.followed, aligned.follows⟩

/-- Keys that were just agreed on. -/
theorem aligned_of_keys (keys : SessionKeys) : (controller keys).Aligned (accessory keys) :=
  ⟨⟨rfl, rfl, rfl, rfl⟩, ⟨rfl, rfl, rfl, rfl⟩⟩

/-- How many frames texts take. -/
def frameCount (texts : List Bytes) : Nat :=
  (texts.flatMap chunks).length

theorem frameCount_append (first second : List Bytes) :
    frameCount (first ++ second) = frameCount first + frameCount second := by
  rw [frameCount, List.flatMap_append, List.length_append, frameCount, frameCount]

@[simp] theorem frameCount_singleton (text : Bytes) :
    frameCount [text] = (chunks text).length := by
  rw [frameCount, List.flatMap_singleton]

/-- The sender, a text later. -/
def sent (session : Session) (text : Bytes) : Session :=
  { session with outboundCounter := session.outboundCounter + (chunks text).length }

/-- The receiver, a text later. -/
def received (session : Session) (text : Bytes) : Session :=
  { session with inboundCounter := session.inboundCounter + (chunks text).length }

/-- With numbers for all of its frames a text gets through, and nothing else does. -/
theorem Follows.transfer (seals : suite.Seals) {text : Bytes} (follows : reader.Follows writer)
    (healthy : writer.poisoned = false)
    (numbered : writer.outboundCounter + (chunks text).length ≤ counterEnd) :
    ∃ wire, writer.encrypt suite text = (writer.sent text, .ok wire) ∧
      (reader.feed wire).decryptAll suite = (reader.received text, .ok text) := by
  refine ⟨_, encrypt_of_numbered suite healthy numbered, ?_⟩
  generalize data : stream suite writer.writeKey writer.outboundCounter (chunks text) = wire
  have awaits : reader.Awaits suite (wire ++ []) (chunks text) := {
    healthy := follows.healthy
    small := fun _ listed => length_le_of_mem_chunks listed
    numbered := by rwa [follows.counted]
    cut := by rw [follows.drained, follows.key, follows.counted, data, List.append_nil]; rfl }
  obtain ⟨after, opened, rest, decrypts, progress⟩ :=
    awaits.feed.progress seals (Nat.lt_succ_self _)
  -- All of it has arrived, so nothing is left to wait for.
  have all : rest = [] := progress.awaits.unread_nil progress.drained
  have split := progress.split
  rw [all, List.append_nil] at split
  have drained : after.buffer = [] := (all ▸ progress.awaits).buffer_nil
  have moved := progress.moved
  rw [drained, ← split] at moved
  rw [decryptAll, decrypts, moved, ← split, flatten_chunks]
  have empty : ([] : Bytes) = reader.buffer := follows.drained.symm
  rw [empty]
  rfl

/-- A text that got through leaves the two ends in step. -/
theorem Aligned.transferred (aligned : reader.Aligned writer) (text : Bytes) :
    (reader.received text).Aligned (writer.sent text) where
  follows := ⟨aligned.follows.key, congrArg (· + _) aligned.follows.counted, aligned.follows.drained,
    aligned.follows.healthy⟩
  followed := ⟨aligned.followed.key, aligned.followed.counted, aligned.followed.drained,
    aligned.followed.healthy⟩

end HomePairing.Session
