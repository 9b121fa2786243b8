import HomePairing.Proofs.Session.Delivery
import HomePairing.Proofs.Session.Openings

/-!
# A channel in hostile hands

A sender seals, and somebody else decides what the receiver is fed: frames can be dropped,
replayed, reordered, altered, cut and made up. All that is asked is that the receiver's
cipher never opens what the sender has not sealed (`Channel.forged`). Then what the
receiver gives out is at every moment the beginning of what the sender has sealed, and
after the first error it gives out nothing (`Channel.released_prefix`).

Two things hold along the way: as long as the receiver is not broken it is in step with the
sender, its counter being the number of texts it has given out (`Channel.InStep`); and a
receiver that has answered with an error is broken for good (`Channel.Stopped`).
-/

namespace HomePairing

/-! ## The channel -/

/-- A sender, a receiver, and what was seen of them. -/
structure Channel where
  sender : Session
  receiver : Session
  /-- The frames that the sender has sealed, with their texts. -/
  log : List (Bytes × Sealed)
  /-- The texts of the frames that the receiver has given out: the answers of its calls
  (`released_decrypt`, `released_decryptAll`). -/
  released : List Bytes
  /-- The errors that the receiver has answered with. -/
  refusals : List SessionError
  /-- What the receiver's cipher has opened though the sender had not sealed it. -/
  forged : List Sealed

namespace Channel

/-- A call of the sender or of the receiver. What is fed can be anything. -/
inductive Move where
  | send (text : Bytes)
  | feed (data : Bytes)
  | decrypt
  | decryptAll

/-- A channel from one side to the other, over fresh sessions. -/
def create (keys : SessionKeys) (side : Side) : Channel where
  sender := side.session keys
  receiver := side.other.session keys
  log := []
  released := []
  refusals := []
  forged := []

variable (suite : Suite)

/-- The receiver has made so many attempts to decrypt a frame, and answered. What was
opened before an error in the same call is lost with it. -/
def receive {Value : Type} (channel : Channel) (count : Nat)
    (result : Session × Except SessionError Value) : Channel :=
  let opened := channel.receiver.openings suite count
  let unsealed := (opened.map Prod.snd).filter (· ∉ channel.log.map Prod.snd)
  match result with
  | (receiver, .ok _) =>
    { channel with
      receiver
      released := channel.released ++ opened.map Prod.fst
      forged := channel.forged ++ unsealed }
  | (receiver, .error e) =>
    { channel with
      receiver
      refusals := channel.refusals ++ [e]
      forged := channel.forged ++ unsealed }

/-- What one call makes of a channel. -/
def step (channel : Channel) : Move → Channel
  | .send text =>
    { channel with
      sender := (channel.sender.encrypt suite text).1
      log := channel.log ++ channel.sender.sealed suite text }
  | .feed data => { channel with receiver := channel.receiver.feed data }
  | .decrypt => channel.receive suite 1 (channel.receiver.decrypt suite)
  | .decryptAll =>
    channel.receive suite (channel.receiver.buffer.length + 1)
      (channel.receiver.decryptAll suite)

def run (channel : Channel) (moves : List Move) : Channel :=
  moves.foldl (step suite) channel

@[simp] theorem run_concat (channel : Channel) (moves : List Move) (move : Move) :
    channel.run suite (moves ++ [move]) = (channel.run suite moves).step suite move := by
  simp [run]

theorem run_append (channel : Channel) (first second : List Move) :
    channel.run suite (first ++ second) = (channel.run suite first).run suite second :=
  List.foldl_append

/-- What `decrypt` answers is what is given out. -/
theorem released_decrypt {channel : Channel} {text? : Option Bytes}
    (decrypts : (channel.receiver.decrypt suite).2 = .ok text?) :
    (channel.step suite .decrypt).released = channel.released ++ text?.toList := by
  rcases result : channel.receiver.decrypt suite with ⟨after, answer⟩
  rw [result] at decrypts
  cases decrypts
  simp only [step, receive, Session.openings, result]
  cases text? <;> rfl

/-- What `decryptAll` answers is what is given out, one text after another. -/
theorem released_decryptAll {channel : Channel} {texts : Bytes}
    (decrypts : (channel.receiver.decryptAll suite).2 = .ok texts) :
    ∃ more, (channel.step suite .decryptAll).released = channel.released ++ more ∧
      texts = more.flatten := by
  refine ⟨_, ?_, Session.texts_of_decryptMany suite decrypts⟩
  rcases result : channel.receiver.decryptAll suite with ⟨after, answer⟩
  rw [result] at decrypts
  cases decrypts
  rw [step, result]
  rfl

variable {suite}

/-! ## Attempts -/

/-- A call that makes so many attempts to decrypt a frame: the receiver is left as they
leave it, and an error means that it is broken. -/
structure Attempt {Value : Type} (suite : Suite) (receiver : Session) (count : Nat)
    (result : Session × Except SessionError Value) : Prop where
  after : result.1 = (receiver.decryptMany suite count).1
  breaks : ∀ e, result.2 = .error e → result.1.poisoned = true

theorem attempt_decryptAll (receiver : Session) :
    Attempt suite receiver (receiver.buffer.length + 1) (receiver.decryptAll suite) :=
  ⟨rfl, fun _ refuses => Session.poisoned_of_decryptMany suite refuses⟩

theorem attempt_decrypt (receiver : Session) :
    Attempt suite receiver 1 (receiver.decrypt suite) := by
  refine ⟨(Session.decryptMany_one suite receiver).symm, fun e refuses => ?_⟩
  obtain ⟨after, answer, decrypts, receipt⟩ := Session.exists_receipt suite receiver
  rw [decrypts] at refuses ⊢
  cases receipt with
  | broken broken => exact broken
  | waiting | opened => cases refuses
  | refused => rfl

/-! ## After an error -/

/-- A receiver that has answered with an error is broken. -/
def Stopped (channel : Channel) : Prop :=
  channel.refusals ≠ [] → channel.receiver.poisoned = true

theorem Stopped.receive {Value : Type} {channel : Channel} {count : Nat}
    {result : Session × Except SessionError Value} (stopped : channel.Stopped)
    (attempt : Attempt suite channel.receiver count result) :
    (channel.receive suite count result).Stopped := by
  obtain ⟨receiver, e | value⟩ := result
  · intro _
    exact attempt.breaks e rfl
  · intro refused
    have broken := stopped refused
    have after := attempt.after.trans (Session.decryptMany_of_poisoned suite broken count).1
    exact (congrArg Session.poisoned after).trans broken

theorem Stopped.step {channel : Channel} (stopped : channel.Stopped) (move : Move) :
    (channel.step suite move).Stopped := by
  cases move with
  | send text => exact stopped
  | feed data => exact stopped
  | decrypt => exact stopped.receive (attempt_decrypt channel.receiver)
  | decryptAll => exact stopped.receive (attempt_decryptAll channel.receiver)

theorem stopped_run (keys : SessionKeys) (side : Side) (moves : List Move) :
    ((create keys side).run suite moves).Stopped := by
  induction moves using List.reverseRecOn with
  | nil => exact fun refused => absurd rfl refused
  | append_singleton moves move ih =>
      rw [run_concat]
      exact ih.step move

theorem receive_of_poisoned {Value : Type} {channel : Channel} {count : Nat}
    {result : Session × Except SessionError Value}
    (broken : channel.receiver.poisoned = true)
    (attempt : Attempt suite channel.receiver count result) :
    (channel.receive suite count result).receiver.poisoned = true ∧
      (channel.receive suite count result).released = channel.released := by
  obtain ⟨stays, nothing⟩ := Session.decryptMany_of_poisoned suite broken count
  have after : result.1.poisoned = true := by rw [attempt.after, stays, broken]
  obtain ⟨receiver, e | value⟩ := result
  · exact ⟨after, rfl⟩
  · refine ⟨after, ?_⟩
    show channel.released ++ (channel.receiver.openings suite count).map Prod.fst = _
    rw [nothing]
    exact List.append_nil _

/-- A broken receiver stays broken, and gives nothing out. -/
theorem step_of_poisoned {channel : Channel} (broken : channel.receiver.poisoned = true)
    (move : Move) :
    (channel.step suite move).receiver.poisoned = true ∧
      (channel.step suite move).released = channel.released := by
  cases move with
  | send text => exact ⟨broken, rfl⟩
  | feed data => exact ⟨broken, rfl⟩
  | decrypt => exact receive_of_poisoned broken (attempt_decrypt channel.receiver)
  | decryptAll => exact receive_of_poisoned broken (attempt_decryptAll channel.receiver)

theorem released_of_poisoned {channel : Channel} (broken : channel.receiver.poisoned = true)
    (moves : List Move) : (channel.run suite moves).released = channel.released := by
  induction moves generalizing channel with
  | nil => rfl
  | cons move moves ih =>
      have kept : (channel.step suite move).receiver.poisoned = true ∧
          (channel.step suite move).released = channel.released :=
        step_of_poisoned broken move
      exact (ih kept.1).trans kept.2

/-! ## Before an error -/

/-- The receiver has given out the beginning of what the sender has sealed, and as long
as it is not broken its counter says how much. -/
structure InStep (suite : Suite) (channel : Channel) : Prop where
  sameKey : channel.sender.writeKey = channel.receiver.readKey
  counted : channel.sender.outboundCounter = channel.log.length
  numbered : Session.Numbered suite channel.receiver.readKey channel.log
  beginning : channel.released <+: channel.log.map Prod.fst
  position : channel.receiver.poisoned = false →
    channel.receiver.inboundCounter = channel.released.length

theorem inStep_create (keys : SessionKeys) (side : Side) :
    InStep suite (create keys side) := by
  cases side <;> exact {
    sameKey := rfl
    counted := rfl
    numbered := ⟨Nat.zero_le _, nofun⟩
    beginning := List.nil_prefix
    position := fun _ => rfl }

theorem InStep.send {channel : Channel} (steady : InStep suite channel) (text : Bytes) :
    InStep suite (channel.step suite (.send text)) := by
  have longer : Session.Numbered suite channel.receiver.readKey
      (channel.log ++ channel.sender.sealed suite text) := by
    have numbered := steady.numbered
    rw [← steady.sameKey] at numbered ⊢
    exact numbered.sealed_append steady.counted text
  rw [step, Session.encrypt_eq]
  exact {
    sameKey := steady.sameKey
    counted := by rw [List.length_append, ← steady.counted]
    numbered := longer
    beginning := by
      rw [List.map_append]
      exact steady.beginning.trans (List.prefix_append ..)
    position := steady.position }

/-- What is opened before the first error is what comes next of what was sealed. -/
theorem InStep.opens_next (seals : suite.Seals) {channel : Channel} {count : Nat}
    (steady : InStep suite channel)
    (unforged : ((channel.receiver.openings suite count).map Prod.snd).filter
      (· ∉ channel.log.map Prod.snd) = []) :
    channel.released ++ (channel.receiver.openings suite count).map Prod.fst <+:
      channel.log.map Prod.fst := by
  cases broken : channel.receiver.poisoned with
  | true =>
      rw [(Session.decryptMany_of_poisoned suite broken count).2, List.map_nil, List.append_nil]
      exact steady.beginning
  | false =>
      have listed : ∀ frame ∈ (channel.receiver.openings suite count).map Prod.snd,
          frame ∈ channel.log.map Prod.snd := by
        simpa [List.filter_eq_nil_iff] using unforged
      have next := steady.numbered.openings_prefix seals listed
      rw [steady.position broken] at next
      rw [← List.prefix_iff_eq_append.mp steady.beginning]
      exact (List.prefix_append_right_inj _).mpr next

theorem InStep.receive {Value : Type} (seals : suite.Seals) {channel : Channel} {count : Nat}
    {result : Session × Except SessionError Value} (steady : InStep suite channel)
    (attempt : Attempt suite channel.receiver count result)
    (unforged : (channel.receive suite count result).forged = []) :
    InStep suite (channel.receive suite count result) := by
  obtain ⟨key, counter⟩ := Session.decryptMany_counts suite channel.receiver count
  rw [← attempt.after] at key counter
  obtain ⟨receiver, e | value⟩ := result
  · have broken : receiver.poisoned = true := attempt.breaks e rfl
    exact {
      sameKey := steady.sameKey.trans key.symm
      counted := steady.counted
      numbered := key ▸ steady.numbered
      beginning := steady.beginning
      position := fun healthy => absurd (broken.symm.trans healthy) nofun }
  · -- An unbroken receiver was not broken before, so its counter went on with the texts.
    have before (healthy : receiver.poisoned = false) :
        channel.receiver.poisoned = false := by
      by_contra broken
      rw [Bool.not_eq_false] at broken
      have same := attempt.after.trans
        (Session.decryptMany_of_poisoned suite broken count).1
      rw [← same] at broken
      exact absurd (healthy.symm.trans broken) nofun
    exact {
      sameKey := steady.sameKey.trans key.symm
      counted := steady.counted
      numbered := key ▸ steady.numbered
      beginning := steady.opens_next seals (List.append_eq_nil_iff.mp unforged).2
      position := fun healthy => by
        show receiver.inboundCounter = (channel.released ++ List.map _ _).length
        rw [List.length_append, List.length_map, ← steady.position (before healthy)]
        exact counter }

theorem InStep.step (seals : suite.Seals) {channel : Channel} (steady : InStep suite channel)
    {move : Move} (unforged : (channel.step suite move).forged = []) :
    InStep suite (channel.step suite move) := by
  cases move with
  | send text => exact steady.send text
  | feed data => exact { steady with }
  | decrypt => exact steady.receive seals (attempt_decrypt channel.receiver) unforged
  | decryptAll => exact steady.receive seals (attempt_decryptAll channel.receiver) unforged

/-- What was forged stays so. -/
theorem forged_step (channel : Channel) (move : Move) :
    channel.forged <+: (channel.step suite move).forged := by
  cases move with
  | send text => exact List.prefix_rfl
  | feed data => exact List.prefix_rfl
  | decrypt =>
      rcases result : channel.receiver.decrypt suite with ⟨after, e | value⟩ <;>
        rw [step, result] <;> exact List.prefix_append ..
  | decryptAll =>
      rcases result : channel.receiver.decryptAll suite with ⟨after, e | value⟩ <;>
        rw [step, result] <;> exact List.prefix_append ..

theorem forged_run (channel : Channel) (moves : List Move) :
    channel.forged <+: (channel.run suite moves).forged := by
  induction moves generalizing channel with
  | nil => exact List.prefix_rfl
  | cons move moves ih => exact (forged_step channel move).trans (ih (channel.step suite move))

theorem inStep_run (seals : suite.Seals) (keys : SessionKeys) (side : Side)
    (moves : List Move) (unforged : ((create keys side).run suite moves).forged = []) :
    InStep suite ((create keys side).run suite moves) := by
  induction moves using List.reverseRecOn with
  | nil => exact inStep_create keys side
  | append_singleton moves move ih =>
      rw [run_concat] at unforged ⊢
      have earlier : ((create keys side).run suite moves).forged <+: [] :=
        unforged ▸ forged_step _ move
      exact (ih (List.prefix_nil.mp earlier)).step seals unforged

/-- If the receiver's cipher opens only what the sender has sealed, then at every moment
the receiver has given out the beginning of the texts that the sender has sealed, and once
it has answered with an error it gives out nothing more. -/
theorem released_prefix (seals : suite.Seals) (keys : SessionKeys) (side : Side)
    (before later : List Move)
    (unforged : ((create keys side).run suite (before ++ later)).forged = []) :
    let moment := (create keys side).run suite before
    moment.released <+: moment.log.map Prod.fst ∧
      (moment.refusals ≠ [] →
        ((create keys side).run suite (before ++ later)).released = moment.released) := by
  intro moment
  rw [run_append] at unforged ⊢
  have earlier : moment.forged <+: [] := unforged ▸ forged_run moment later
  refine ⟨(inStep_run seals keys side before (List.prefix_nil.mp earlier)).beginning, ?_⟩
  exact fun refused => released_of_poisoned (stopped_run keys side before refused) later

/-- The controller sends a text, and its frame arrives twice. -/
def replayed (keys : SessionKeys) : List Move :=
  let frame := Session.frame Suite.standard keys.controlWrite 0 [1, 2]
  [.send [1, 2], .feed frame, .decrypt, .feed frame, .decrypt]

/-- After that an honest frame comes too late. -/
theorem released_replayed :
    let keys : SessionKeys := ⟨Block.zero, Block.fit 32 [1]⟩
    let late : List Move :=
      [.send [3], .feed (Session.frame Suite.standard keys.controlWrite 1 [3]), .decryptAll]
    let moment := (create keys .controller).run Suite.standard (replayed keys)
    let now := (create keys .controller).run Suite.standard (replayed keys ++ late)
    now.forged = [] ∧ moment.refusals = [.decryptionFailed 1] ∧
      moment.released = [[1, 2]] ∧ moment.released <+: moment.log.map Prod.fst ∧
      now.released = moment.released := by
  intro keys late moment now
  have unforged : now.forged = [] := by decide +kernel
  have refused : moment.refusals = [.decryptionFailed 1] := by decide +kernel
  have given : moment.released = [[1, 2]] := by decide +kernel
  obtain ⟨beginning, nothing⟩ := released_prefix Suite.seals_standard keys .controller
    (replayed keys) late unforged
  exact ⟨unforged, refused, given, beginning, nothing (by rw [refused]; nofun)⟩

end Channel

end HomePairing
