import HomePairing.Proofs.Session.Openings
import Mathlib.Algebra.GroupWithZero.Nat
import Mathlib.Data.List.Induction
import Mathlib.Data.List.Nodup

/-!
# Every frame under its own number

A nonce must never be used twice under one key. A session may be called in any order, for
sending and for receiving, and calls may fail; a `Ledger` keeps what was sealed and what was
opened along the way. The frames of either kind are numbered from zero in the order in which
they came, the number being the nonce, and the session's counters say how many there are
(`Ledger.kept_run`). So no nonce comes twice (`Ledger.numbered_run`).

As long as there are numbers left, what was sealed is what was sent: the texts are cut as
`Session.chunks` says, and nothing was sealed that did not go out (`Ledger.complete_run`).
-/

namespace HomePairing

namespace Session

/-! ## Texts and their pieces -/

/-- A text takes as many frames as its length asks for, rounded up. -/
theorem length_chunks (text : Bytes) :
    (chunks text).length = (text.length + (maxPayload - 1)) / maxPayload := by
  fun_induction chunks text with
  | case1 text empty =>
      rw [List.isEmpty_iff.mp empty]
      rfl
  | case2 text nonempty ih =>
      have some : text.length ≠ 0 := by
        intro none
        exact nonempty (List.isEmpty_iff.mpr (List.length_eq_zero_iff.mp none))
      rw [List.length_cons, ih, List.length_drop]
      unfold maxPayload
      omega

/-- No frame is sent for nothing. -/
theorem length_pos_of_mem_chunks {text piece : Bytes} (h : piece ∈ chunks text) :
    0 < piece.length := by
  fun_induction chunks text with
  | case1 text empty => cases h
  | case2 text nonempty ih =>
      rcases List.mem_cons.mp h with first | later
      · have some : text.length ≠ 0 := by
          intro none
          exact nonempty (List.isEmpty_iff.mpr (List.length_eq_zero_iff.mp none))
        rw [first, List.length_take]
        unfold maxPayload
        omega
      · exact ih later

variable {suite : Suite}

/-- What is sealed is the texts, as far as the numbers go. -/
theorem texts_sealings (key : Key) (counter : Nat) (texts : List Bytes) :
    (sealings suite key counter texts).map Prod.fst = texts.take (counterEnd - counter) := by
  induction texts generalizing counter with
  | nil => simp [sealings]
  | cons text rest ih =>
      unfold sealings
      split
      · next exhausted =>
          rw [Nat.sub_eq_zero_of_le exhausted]
          rfl
      · next numbered =>
          have room : counterEnd - counter = (counterEnd - (counter + 1)) + 1 := by omega
          rw [room, List.map_cons, List.take_succ_cons, ih]

/-- Everything that a session seals is a piece of the text. -/
theorem mem_chunks_of_sealed {session : Session} {text : Bytes} {entry : Bytes × Sealed}
    (listed : entry ∈ session.sealed suite text) : entry.1 ∈ chunks text := by
  unfold sealed at listed
  split at listed
  · cases listed
  · have piece := List.mem_map_of_mem (f := Prod.fst) listed
    rw [texts_sealings] at piece
    exact List.mem_of_mem_take piece

/-! ## Logs with numbers -/

/-- The frames in a log were opened, each under its place as number. -/
structure Opened (suite : Suite) (key : Key) (log : List (Bytes × Sealed)) : Prop where
  bounded : log.length ≤ counterEnd
  opened : ∀ i text frame, log[i]? = some (text, frame) →
    frame.nonce = Nonce.ofCounter i ∧
      suite.decrypt? key frame.nonce frame.aad frame.bytes = some text

theorem Opened.concat {session : Session} {log : List (Bytes × Sealed)} {text : Bytes}
    (opened : Opened suite session.readKey log)
    (counted : session.inboundCounter = log.length)
    (room : session.inboundCounter < counterEnd)
    (opens : suite.decrypt? session.readKey session.front.nonce session.front.aad
      session.front.bytes = some text) :
    Opened suite session.readKey (log ++ [(text, session.front)]) where
  bounded := by
    rw [List.length_append, List.length_singleton]
    omega
  opened i found frame here := by
    rcases Nat.lt_or_ge i log.length with old | new
    · rw [List.getElem?_append_left old] at here
      exact opened.opened i found frame here
    · rw [List.getElem?_append_right new, List.getElem?_singleton] at here
      split at here
      · next last =>
          cases here
          have place : i = session.inboundCounter := by omega
          rw [place]
          exact ⟨rfl, opens⟩
      · cases here

/-- What a receiver opens next goes on with the numbers. The induction is on the attempts; a
frame that was opened stands in the log before the others are. -/
theorem Opened.openings_append {session : Session} {log : List (Bytes × Sealed)}
    (opened : Opened suite session.readKey log)
    (counted : session.inboundCounter = log.length) (count : Nat) :
    Opened suite session.readKey (log ++ session.openings suite count) := by
  induction count generalizing session log with
  | zero =>
      rw [openings, List.append_nil]
      exact opened
  | succ count ih =>
      obtain ⟨next, answer, decrypts, receipt⟩ := exists_receipt suite session
      rw [openings, decrypts]
      cases receipt with
      | broken _ | waiting _ | refused _ =>
          rw [List.append_nil]
          exact opened
      | @opened text _ room opens =>
          have longer := opened.concat counted room opens
          let after : Session := { session with
            inboundCounter := session.inboundCounter + 1
            buffer := session.buffer.drop session.frontSize }
          have numbered : after.inboundCounter = (log ++ [(text, session.front)]).length := by
            rw [List.length_append, ← counted]
            rfl
          have step := @ih after _ longer numbered
          rwa [List.append_assoc] at step

/-- Frames that have their places as numbers have the nonces of these numbers, in order. -/
theorem nonces_eq {log : List (Bytes × Sealed)}
    (placed : ∀ i text frame, log[i]? = some (text, frame) → frame.nonce = Nonce.ofCounter i) :
    log.map (·.2.nonce) = (List.range log.length).map Nonce.ofCounter := by
  refine List.ext_getElem (by simp) fun i inside _ => ?_
  rw [List.length_map] at inside
  rw [List.getElem_map, List.getElem_map, List.getElem_range]
  exact placed i log[i].1 log[i].2 (List.getElem?_eq_getElem inside)

/-- No two of them are the same, as there are never more frames than numbers. -/
theorem nodup_nonces {log : List (Bytes × Sealed)} (bounded : log.length ≤ counterEnd)
    (placed : ∀ i text frame, log[i]? = some (text, frame) → frame.nonce = Nonce.ofCounter i) :
    (log.map (·.2.nonce)).Nodup := by
  rw [nonces_eq placed]
  refine List.Nodup.map_on ?_ List.nodup_range
  intro i first j second same
  have last : counterEnd < UInt64.size := by decide
  rw [List.mem_range] at first second
  exact Nonce.ofCounter_injective (by omega) (by omega) same

/-! ## What receiving leaves alone -/

/-- Decrypting touches nothing that sending depends on but whether the session is broken. -/
theorem decryptMany_frame (suite : Suite) (session : Session) (count : Nat) :
    (session.decryptMany suite count).1.writeKey = session.writeKey ∧
      (session.decryptMany suite count).1.outboundCounter = session.outboundCounter := by
  induction count generalizing session with
  | zero => exact ⟨rfl, rfl⟩
  | succ count ih =>
      obtain ⟨next, answer, decrypts, receipt⟩ := exists_receipt suite session
      cases receipt with
      | broken _ | waiting _ | refused _ =>
          rw [decryptMany, decrypts]
          exact ⟨rfl, rfl⟩
      | opened _ _ _ =>
          rw [decryptMany_of_opened suite decrypts]
          exact ih _

end Session

/-! ## Ledgers -/

/-- A session, and what was done with its keys. -/
structure Ledger where
  session : Session
  /-- The frames that were sealed, with their texts. -/
  sealed : List (Bytes × Sealed)
  /-- The frames that were opened, with their texts, also where the call failed at a later one. -/
  opened : List (Bytes × Sealed)
  /-- The texts that were encrypted, and what went out for each. -/
  sent : List (Bytes × Bytes)

namespace Ledger

/-- A call of a session. -/
inductive Call where
  | encrypt (text : Bytes)
  | feed (data : Bytes)
  | decrypt
  | decryptAll

def create (readKey writeKey : Key) : Ledger where
  session := .create readKey writeKey
  sealed := []
  opened := []
  sent := []

variable (suite : Suite)

/-- Receiving, in so many attempts to decrypt a frame. -/
def receive (ledger : Ledger) (after : Session) (count : Nat) : Ledger :=
  { ledger with
    session := after
    opened := ledger.opened ++ ledger.session.openings suite count }

/-- What one call makes of a ledger. -/
def step (ledger : Ledger) : Call → Ledger
  | .encrypt text =>
    let (after, answer) := ledger.session.encrypt suite text
    { ledger with
      session := after
      sealed := ledger.sealed ++ ledger.session.sealed suite text
      sent := ledger.sent ++ (answer.toOption.map fun out => (text, out)).toList }
  | .feed data => { ledger with session := ledger.session.feed data }
  | .decrypt => ledger.receive suite (ledger.session.decrypt suite).1 1
  | .decryptAll =>
    ledger.receive suite (ledger.session.decryptAll suite).1 (ledger.session.buffer.length + 1)

def run (ledger : Ledger) (calls : List Call) : Ledger :=
  calls.foldl (step suite) ledger

@[simp] theorem run_concat (ledger : Ledger) (calls : List Call) (call : Call) :
    ledger.run suite (calls ++ [call]) = (ledger.run suite calls).step suite call := by
  simp [run]

/-! ## Numbers in order -/

/-- Both logs are numbered in order under the session's keys, and the counters say how long
they are. -/
structure Kept (readKey writeKey : Key) (ledger : Ledger) : Prop where
  reads : ledger.session.readKey = readKey
  writes : ledger.session.writeKey = writeKey
  sealed : Session.Numbered suite writeKey ledger.sealed
  sealedCount : ledger.session.outboundCounter = ledger.sealed.length
  opened : Session.Opened suite readKey ledger.opened
  openedCount : ledger.session.inboundCounter = ledger.opened.length
  /-- Nothing empty is sealed, and nothing that is too much for a frame. -/
  sized : ∀ entry ∈ ledger.sealed,
    0 < entry.1.length ∧ entry.1.length ≤ Session.maxPayload

variable {suite} {readKey writeKey : Key} {ledger : Ledger}

theorem kept_create (readKey writeKey : Key) :
    Kept suite readKey writeKey (create readKey writeKey) where
  reads := rfl
  writes := rfl
  sealed := ⟨Nat.zero_le _, nofun⟩
  sealedCount := rfl
  opened := ⟨Nat.zero_le _, nofun⟩
  openedCount := rfl
  sized := nofun

theorem Kept.encrypt (kept : Kept suite readKey writeKey ledger) (text : Bytes) :
    Kept suite readKey writeKey (ledger.step suite (.encrypt text)) := by
  rw [step, Session.encrypt_eq]
  refine { kept with sealed := ?_, sealedCount := ?_, sized := ?_ }
  · rw [← kept.writes]
    exact (kept.writes ▸ kept.sealed).sealed_append kept.sealedCount text
  · rw [List.length_append, ← kept.sealedCount]
  · intro entry listed
    rcases List.mem_append.mp listed with old | new
    · exact kept.sized entry old
    · have piece := Session.mem_chunks_of_sealed new
      exact ⟨Session.length_pos_of_mem_chunks piece, Session.length_le_of_mem_chunks piece⟩

/-- However many attempts a call makes, and whatever comes of it. -/
theorem Kept.receive (kept : Kept suite readKey writeKey ledger) {after : Session} {count : Nat}
    (attempted : after = (ledger.session.decryptMany suite count).1) :
    Kept suite readKey writeKey (ledger.receive suite after count) := by
  subst attempted
  obtain ⟨reads, counts⟩ := Session.decryptMany_counts suite ledger.session count
  obtain ⟨writes, stays⟩ := Session.decryptMany_frame suite ledger.session count
  exact {
    reads := reads.trans kept.reads
    writes := writes.trans kept.writes
    sealed := kept.sealed
    sealedCount := stays.trans kept.sealedCount
    opened := by
      rw [← kept.reads]
      exact (kept.reads ▸ kept.opened).openings_append kept.openedCount count
    openedCount := by
      rw [Ledger.receive, List.length_append, ← kept.openedCount]
      exact counts
    sized := kept.sized }

theorem Kept.step (kept : Kept suite readKey writeKey ledger) (call : Call) :
    Kept suite readKey writeKey (ledger.step suite call) := by
  cases call with
  | encrypt text => exact kept.encrypt text
  | feed data => exact { kept with }
  | decrypt => exact kept.receive (Session.decryptMany_one suite ledger.session).symm
  | decryptAll => exact kept.receive rfl

theorem kept_run (suite : Suite) (readKey writeKey : Key) (calls : List Call) :
    Kept suite readKey writeKey ((create readKey writeKey).run suite calls) := by
  induction calls using List.reverseRecOn with
  | nil => exact kept_create readKey writeKey
  | append_singleton calls call ih =>
      rw [run_concat]
      exact ih.step call

/-- A call adds to the logs and takes nothing back. -/
theorem prefix_step (suite : Suite) (ledger : Ledger) (call : Call) :
    ledger.sealed <+: (ledger.step suite call).sealed ∧
      ledger.opened <+: (ledger.step suite call).opened := by
  cases call with
  | encrypt text => exact ⟨List.prefix_append .., List.prefix_rfl⟩
  | feed data => exact ⟨List.prefix_rfl, List.prefix_rfl⟩
  | decrypt | decryptAll => exact ⟨List.prefix_rfl, List.prefix_append ..⟩

/-! ## What was sealed went out -/

/-- With numbers left, everything that was sealed belongs to a text that was sent. -/
def Complete (ledger : Ledger) : Prop :=
  ledger.session.outboundCounter < Session.counterEnd →
    ledger.sealed.map Prod.fst = ledger.sent.flatMap (fun (text, _) => Session.chunks text) ∧
      (ledger.sent.map Prod.snd).flatten = Session.wire ledger.sealed

theorem Complete.encrypt (complete : ledger.Complete) (text : Bytes) :
    (ledger.step suite (.encrypt text)).Complete := by
  intro room
  rw [step, Session.encrypt_eq] at room ⊢
  have before : ledger.session.outboundCounter < Session.counterEnd :=
    Nat.lt_of_le_of_lt (Nat.le_add_right ..) room
  obtain ⟨texts, wired⟩ := complete before
  simp only [Session.sealed] at room ⊢
  by_cases broken : ledger.session.poisoned = true
  · simp only [if_pos broken, Except.toOption, Option.map_none, Option.toList_none,
      List.append_nil]
    exact ⟨texts, wired⟩
  · simp only [if_neg broken, Session.length_sealings] at room ⊢
    -- A number that is left means that there was one for every piece.
    have enough : (Session.chunks text).length ≤
        Session.counterEnd - ledger.session.outboundCounter := by omega
    have whole : min (Session.chunks text).length
        (Session.counterEnd - ledger.session.outboundCounter) =
          (Session.chunks text).length := Nat.min_eq_left enough
    simp only [whole, if_true, Except.toOption, Option.map_some, Option.toList_some]
    constructor
    · rw [List.map_append, List.flatMap_append, texts, Session.texts_sealings,
        List.take_of_length_le enough, List.flatMap_singleton]
    · rw [List.map_append, List.flatten_append, wired, Session.wire_append]
      simp

theorem Complete.receive (complete : ledger.Complete) {after : Session} {count : Nat}
    (attempted : after = (ledger.session.decryptMany suite count).1) :
    (ledger.receive suite after count).Complete := by
  subst attempted
  obtain ⟨_, stays⟩ := Session.decryptMany_frame suite ledger.session count
  intro room
  exact complete (stays ▸ room)

theorem Complete.step (complete : ledger.Complete) (call : Call) :
    (ledger.step suite call).Complete := by
  cases call with
  | encrypt text => exact complete.encrypt text
  | feed data => exact complete
  | decrypt => exact complete.receive (Session.decryptMany_one suite ledger.session).symm
  | decryptAll => exact complete.receive rfl

theorem complete_run (suite : Suite) (readKey writeKey : Key) (calls : List Call) :
    ((create readKey writeKey).run suite calls).Complete := by
  induction calls using List.reverseRecOn with
  | nil => exact fun _ => ⟨rfl, rfl⟩
  | append_singleton calls call ih =>
      rw [run_concat]
      exact ih.step call

/-- With numbers left, the counter says how many frames the texts that were sent take. -/
theorem Complete.outboundCounter_eq (complete : ledger.Complete)
    (kept : Kept suite readKey writeKey ledger)
    (room : ledger.session.outboundCounter < Session.counterEnd) :
    ledger.session.outboundCounter =
      (ledger.sent.map fun (text, _) => (text.length + 1023) / 1024).sum := by
  have texts := congrArg List.length (complete room).1
  rw [List.length_map, List.length_flatMap] at texts
  rw [kept.sealedCount, texts]
  exact congrArg List.sum (List.map_congr_left fun entry _ => Session.length_chunks entry.1)

/-- After any calls, in any order and with any failures: the frames that were sealed are numbered
from zero, each sealed under its number as nonce, and so are the frames that were opened. No
nonce comes twice in either direction; the counters say how many frames there are, and no call
takes them back. A frame is the length of its text in two bytes, from 1 to 1024, and the text
sealed, which is 16 bytes longer. As long as there are numbers left, what went out is exactly
the frames that were sealed, so many as the texts take at 1024 bytes a frame. -/
theorem numbered_run (seals : suite.Seals) (readKey writeKey : Key) (calls : List Call) :
    let ledger := (create readKey writeKey).run suite calls
    (∀ (i : Nat) (text : Bytes) (frame : Sealed), ledger.sealed[i]? = some (text, frame) →
      frame = ⟨Nonce.ofCounter i, Bytes.ofNatLE 2 text.length,
          suite.encrypt writeKey (Nonce.ofCounter i) (Bytes.ofNatLE 2 text.length) text⟩ ∧
        1 ≤ text.length ∧ text.length ≤ 1024 ∧ frame.bytes.length = text.length + 16) ∧
      (∀ i text frame, ledger.opened[i]? = some (text, frame) →
        frame.nonce = Nonce.ofCounter i ∧
          suite.decrypt? readKey frame.nonce frame.aad frame.bytes = some text) ∧
      (ledger.sealed.map (·.2.nonce)).Nodup ∧ (ledger.opened.map (·.2.nonce)).Nodup ∧
      ledger.session.outboundCounter = ledger.sealed.length ∧
      ledger.session.inboundCounter = ledger.opened.length ∧
      (∀ call, let next := (ledger.step suite call).session
        ledger.session.outboundCounter ≤ next.outboundCounter ∧
          ledger.session.inboundCounter ≤ next.inboundCounter) ∧
      (ledger.session.outboundCounter < Session.counterEnd →
        ledger.session.outboundCounter =
            (ledger.sent.map fun (text, _) => (text.length + 1023) / 1024).sum ∧
          (ledger.sent.map Prod.snd).flatten = Session.wire ledger.sealed) := by
  intro ledger
  have kept : Kept suite readKey writeKey ledger := kept_run suite readKey writeKey calls
  have complete : ledger.Complete := complete_run suite readKey writeKey calls
  have sealedUnder : ∀ i text frame, ledger.sealed[i]? = some (text, frame) →
      frame = Session.sealText suite writeKey i text := kept.sealed.sealed
  refine ⟨?_, kept.opened.opened, ?_, ?_, kept.sealedCount, kept.openedCount, ?_, ?_⟩
  · intro i text frame here
    obtain ⟨filled, small⟩ := kept.sized _ (List.mem_of_getElem? here)
    rw [sealedUnder i text frame here]
    exact ⟨rfl, filled, small, seals.length_encrypt ..⟩
  · refine Session.nodup_nonces kept.sealed.bounded ?_
    intro i text frame here
    rw [sealedUnder i text frame here]
    rfl
  · refine Session.nodup_nonces kept.opened.bounded ?_
    intro i text frame here
    exact (kept.opened.opened i text frame here).1
  · intro call next
    have keptNext : Kept suite readKey writeKey (ledger.step suite call) := kept.step call
    obtain ⟨sealedFirst, openedFirst⟩ := prefix_step suite ledger call
    simp only [next, kept.sealedCount, kept.openedCount, keptNext.sealedCount,
      keptNext.openedCount]
    exact ⟨sealedFirst.length_le, openedFirst.length_le⟩
  · intro room
    exact ⟨complete.outboundCounter_eq kept room, (complete room).2⟩

/-- A session that sends, opens a frame, meets one that does not open, and cannot send after
that. -/
def interrupted (readKey : Key) : List Call :=
  [.encrypt [1, 2, 3], .feed (Session.frame Suite.standard readKey 0 [7]), .decrypt,
    .encrypt [], .feed (List.replicate 18 0), .decryptAll, .encrypt [4]]

theorem numbered_run_interrupted :
    let readKey : Key := Block.fit 32 [1]
    let ledger := (create readKey Block.zero).run Suite.standard (interrupted readKey)
    Suite.standard.Seals ∧ ledger.session.poisoned = true ∧
      ledger.sealed.map Prod.fst = [[1, 2, 3]] ∧ ledger.opened.map Prod.fst = [[7]] ∧
      ledger.session.outboundCounter < Session.counterEnd ∧
      (ledger.sealed.map (·.2.nonce)).Nodup ∧ ledger.session.inboundCounter = 1 ∧
      ledger.session.outboundCounter =
        (ledger.sent.map fun (text, _) => (text.length + 1023) / 1024).sum := by
  intro readKey ledger
  have broken : ledger.session.poisoned = true := by decide +kernel
  have sealed : ledger.sealed.map Prod.fst = [[1, 2, 3]] := by decide +kernel
  have opened : ledger.opened.map Prod.fst = [[7]] := by decide +kernel
  have room : ledger.session.outboundCounter < Session.counterEnd := by decide +kernel
  obtain ⟨_, _, nonces, _, _, counted, _, complete⟩ :=
    numbered_run Suite.seals_standard readKey Block.zero (interrupted readKey)
  refine ⟨Suite.seals_standard, broken, sealed, opened, room, nonces, ?_, (complete room).1⟩
  rw [counted, ← List.length_map (f := Prod.fst), opened]
  rfl

end Ledger

end HomePairing
