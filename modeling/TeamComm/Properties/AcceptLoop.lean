import TeamComm.Properties.ConnectionLoop
import TeamComm.Properties.Conversations

/-!
# Turning away

Three things turn the accept loop away from its socket: a handle which asks for a shutdown, a
signal, and a signal task which could not install its handlers.  The first two end the loop; the
third leaves it turning between its two channels without ever looking at the socket again.
-/

namespace TeamComm

/-- The loop goes on. -/
def ServerEvent.isLoop : ServerEvent → Bool
  | .loop _ => true
  | _ => false

namespace Server

/-! ## Channels -/

/-- A channel over which nothing but `true` is sent, as long as the loop reads it. -/
structure Heeds (channel : Watch Bool) (loop : LoopPhase) : Prop where
  /-- The receiver lives as long as `run`. -/
  receiver : channel.receiver = true ↔ loop ≠ .returned
  /-- What is sent is `true`. -/
  sent : channel.Notified → channel.value = true
  /-- The loop which has seen it is over. -/
  unseen : channel.value = true → loop.isOver = false → channel.Notified

section Heeds

variable {channel : Watch Bool} {loop next : LoopPhase}

theorem Heeds.send (heeds : Heeds channel loop) : Heeds (channel.send true) loop := by
  by_cases receiver : channel.receiver = true
  · obtain ⟨value, notified⟩ := Watch.send_of_receiver true receiver
    exact ⟨by rw [Watch.send_receiver]; exact heeds.receiver, fun _ => value, fun _ _ => notified⟩
  · rwa [Watch.send_of_none true (Bool.eq_false_iff.mpr receiver)]

/-- The loop goes on without a look at the channel. -/
theorem Heeds.move (heeds : Heeds channel loop) (running : loop ≠ .returned)
    (next_running : next ≠ .returned) (finished : next.isOver = false → loop.isOver = false) :
    Heeds channel next where
  receiver := by simp [heeds.receiver, running, next_running]
  sent := heeds.sent
  unseen value in_loop := heeds.unseen value (finished in_loop)

/-- The loop is left at a look at the channel. -/
theorem Heeds.look (heeds : Heeds channel loop) (running : loop ≠ .returned)
    (next_running : next ≠ .returned) (finished : next.isOver = true) :
    Heeds channel.look next where
  receiver := by
    change channel.receiver = true ↔ _
    simp [heeds.receiver, running, next_running]
  sent notified := absurd notified (Watch.notified_look channel)
  unseen _ in_loop := by simp [finished] at in_loop

/-- Nothing takes a `true` back. -/
theorem send_true {channel : Watch Bool} (value : channel.value = true) :
    (channel.send true).value = true := by
  unfold Watch.send
  split_ifs
  · rfl
  · exact value

/-- A channel carries `true` after a send exactly if it did before or somebody listens. -/
theorem Heeds.send_value (heeds : Heeds channel loop) :
    (channel.send true).value = true ↔ channel.value = true ∨ loop ≠ .returned := by
  rw [← heeds.receiver]
  by_cases receiver : channel.receiver = true
  · exact iff_of_true (Watch.send_of_receiver true receiver).1 (.inr receiver)
  · rw [Watch.send_of_none true (Bool.eq_false_iff.mpr receiver), or_iff_left receiver]

theorem Heeds.drop (heeds : Heeds channel loop) : Heeds channel.dropReceiver .returned where
  receiver := by simp [Watch.dropReceiver]
  sent := heeds.sent
  unseen := nofun

end Heeds

/-- Somebody has told the loop to end. -/
def Told (server : Server) : Prop := server.isShuttingDown = true ∨ server.signal.value = true

/-- What the loop knows of its channels. -/
structure Attentive (server : Server) : Prop where
  shutdown : Heeds server.shutdown server.loop
  signal : Heeds server.signal server.loop
  /-- The daemon holds on to its sender. -/
  sender : server.shutdown.senders ≠ 0
  /-- The sender of the signal task goes with the task. -/
  signal_sender : server.signal.senders = if server.signalTask = .ended then 0 else 1
  /-- The signal task does not outlive a signal. -/
  signal_task : server.signal.value = true → server.signalTask = .ended
  /-- The loop ends when it is told. -/
  told : server.loop.isOver = true → server.Told

theorem attentive_bound : Attentive .bound where
  shutdown := ⟨by decide, nofun, nofun⟩
  signal := ⟨by decide, nofun, nofun⟩
  sender := Nat.one_ne_zero
  signal_sender := rfl
  signal_task := nofun
  told := nofun

theorem Attentive.orphaned_iff {server : Server} (attentive : Attentive server) :
    server.signal.senders = 0 ↔ server.signalTask = .ended := by
  rw [attentive.signal_sender]
  split_ifs with ended
  · exact iff_of_true rfl ended
  · exact iff_of_false id ended

/-- What happens on a connection alone is not noticed by the loop. -/
theorem Attentive.frame {server changed : Server} (attentive : Attentive server)
    (shutdown : changed.shutdown = server.shutdown) (signal : changed.signal = server.signal)
    (task : changed.signalTask = server.signalTask) (loop : changed.loop = server.loop) :
    Attentive changed where
  shutdown := by rw [shutdown, loop]; exact attentive.shutdown
  signal := by rw [signal, loop]; exact attentive.signal
  sender := by rw [shutdown]; exact attentive.sender
  signal_sender := by rw [signal, task]; exact attentive.signal_sender
  signal_task := by rw [signal, task]; exact attentive.signal_task
  told finished := by
    rw [loop] at finished
    rcases attentive.told finished with asked | came
    · exact .inl (by rwa [isShuttingDown, shutdown])
    · exact .inr (by rwa [signal])

/-- The loop goes on without a look at its channels. -/
theorem Attentive.move {server : Server} {next : LoopPhase} (attentive : Attentive server)
    (running : server.loop ≠ .returned) (next_running : next ≠ .returned)
    (same : next.isOver = server.loop.isOver) : Attentive { server with loop := next } where
  shutdown := attentive.shutdown.move running next_running fun finished => same ▸ finished
  signal := attentive.signal.move running next_running fun finished => same ▸ finished
  sender := attentive.sender
  signal_sender := attentive.signal_sender
  signal_task := attentive.signal_task
  told finished := attentive.told (same ▸ finished)

/-- What a handle does is seen in its channel only. -/
theorem Attentive.withShutdown {before : Server} (attentive : Attentive before)
    {channel : Watch Bool}
    (heeds : Heeds channel before.loop) (senders : channel.senders ≠ 0)
    (keeps : before.shutdown.value = true → channel.value = true) :
    Attentive { before with shutdown := channel } where
  shutdown := heeds
  signal := attentive.signal
  sender := senders
  signal_sender := attentive.signal_sender
  signal_task := attentive.signal_task
  told finished := (attentive.told finished).imp_left keeps

/-- What the signal task does is seen in its channel only. -/
theorem Attentive.withSignal {before : Server} (attentive : Attentive before)
    {channel : Watch Bool} {task : SignalTask} (heeds : Heeds channel before.loop)
    (senders : channel.senders = if task = .ended then 0 else 1)
    (last : channel.value = true → task = .ended)
    (keeps : before.signal.value = true → channel.value = true) :
    Attentive { before with signal := channel, signalTask := task } where
  shutdown := attentive.shutdown
  signal := heeds
  sender := attentive.sender
  signal_sender := senders
  signal_task := last
  told finished := (attentive.told finished).imp_right keeps

/-- The loop is being turned away from its socket. -/
def Closing (server : Server) : Prop :=
  server.isShuttingDown = true ∨ server.signalTask = .ended

/-- How many connections a loop may still accept which is being turned away. -/
def chances (server : Server) : Nat :=
  match server.loop with
  | .accepting => 1
  | .signalled => if server.signalTask = .ended then 0 else 1
  | _ => 0

theorem chances_le (server : Server) : server.chances ≤ 1 := by
  unfold chances
  split
  · exact Nat.le_refl 1
  · split_ifs
    · exact Nat.zero_le 1
    · exact Nat.le_refl 1
  · exact Nat.zero_le 1

theorem chances_mono {server after : Server} (loop : after.loop = server.loop)
    (ended : server.signalTask = .ended → after.signalTask = .ended) :
    after.chances ≤ server.chances := by
  unfold chances
  rw [loop]
  split
  · exact Nat.le_refl 1
  · split_ifs with after_ended before_ended before_ended
    · exact Nat.le_refl 0
    · exact Nat.zero_le 1
    · exact absurd (ended before_ended) after_ended
    · exact Nat.le_refl 1
  · exact Nat.le_refl 0

section Loop

variable [Chrono] [SerdeJson] {server : Server}

/-- The first arm ends the loop when a handle has asked for it. -/
theorem advance_external (attentive : Attentive server) (external : server.loop = .external)
    (accept : Accept) : server.advance accept =
      (none, if server.isShuttingDown then
          { server with shutdown := server.shutdown.look, loop := .aborting server.inflight }
        else { server with loop := .signalled }) := by
  unfold advance isShuttingDown
  rw [external]
  dsimp only
  rcases server.shutdown.poll_cases with
    ⟨notified, poll⟩ | ⟨-, orphaned, -⟩ | ⟨unnotified, -, poll⟩
  · have value := attentive.shutdown.sent notified
    rw [poll, if_pos value]
    simp [checked, value]
  · exact absurd orphaned attentive.sender
  · have value : server.shutdown.value = false := by
      refine Bool.eq_false_iff.mpr fun value => unnotified ?_
      exact attentive.shutdown.unseen value (by rw [external]; rfl)
    rw [poll, value]
    rfl

/-- The second arm ends the loop after a signal, and turns it back when the signal task is gone
without one. -/
theorem advance_signalled (attentive : Attentive server) (signalled : server.loop = .signalled)
    (accept : Accept) : server.advance accept =
      (none, if server.signal.value then
          { server with signal := server.signal.look, loop := .aborting server.inflight }
        else { server with
          loop := if server.signalTask = .ended then .external else .accepting }) := by
  unfold advance
  rw [signalled]
  dsimp only
  have value (unnotified : ¬server.signal.Notified) : server.signal.value = false := by
    refine Bool.eq_false_iff.mpr fun value => unnotified ?_
    exact attentive.signal.unseen value (by rw [signalled]; rfl)
  rcases server.signal.poll_cases with
    ⟨notified, poll⟩ | ⟨unnotified, orphaned, poll⟩ | ⟨unnotified, owned, poll⟩
  · have sent := attentive.signal.sent notified
    rw [poll, if_pos sent]
    simp [checked, sent]
  · rw [poll, value unnotified, if_pos (attentive.orphaned_iff.mp orphaned)]
    simp [checked, value unnotified]
  · rw [poll, value unnotified, if_neg (mt attentive.orphaned_iff.mpr owned)]
    rfl

theorem Attentive.advance (attentive : Attentive server) (accept : Accept) :
    Attentive (server.advance accept).2 := by
  cases loop : server.loop with
  | external =>
      have running : server.loop ≠ .returned := by simp [loop]
      rw [advance_external attentive loop]
      dsimp only
      split_ifs with asked
      · exact {
          shutdown := attentive.shutdown.look running nofun rfl
          signal := attentive.signal.move running nofun nofun
          sender := attentive.sender
          signal_sender := attentive.signal_sender
          signal_task := attentive.signal_task
          told _ := .inl asked }
      · exact attentive.move running nofun (by rw [loop]; rfl)
  | signalled =>
      have running : server.loop ≠ .returned := by simp [loop]
      rw [advance_signalled attentive loop]
      dsimp only
      split_ifs with came ended
      · exact {
          shutdown := attentive.shutdown.move running nofun nofun
          signal := attentive.signal.look running nofun rfl
          sender := attentive.sender
          signal_sender := attentive.signal_sender
          signal_task := attentive.signal_task
          told _ := .inr came }
      · exact attentive.move running nofun (by rw [loop]; rfl)
      · exact attentive.move running nofun (by rw [loop]; rfl)
  | accepting =>
      have running : server.loop ≠ .returned := by simp [loop]
      have next : Attentive { server with loop := .external } :=
        attentive.move running nofun (by rw [loop]; rfl)
      unfold Server.advance
      rw [loop]
      cases accept with
      | pending | failed => exact next
      | connected => exact next.frame rfl rfl rfl rfl
  | aborting inflight =>
      have running : server.loop ≠ .returned := by simp [loop]
      unfold Server.advance
      rw [loop]
      cases inflight with
      | nil => exact attentive.move running nofun (by rw [loop]; rfl)
      | cons connection rest =>
          have next : Attentive { server with loop := .aborting rest } :=
            attentive.move running nofun (by rw [loop]; rfl)
          exact next.frame rfl rfl rfl rfl
  | unlinking =>
      unfold Server.advance
      rw [loop]
      exact {
        shutdown := attentive.shutdown.drop
        signal := attentive.signal.drop
        sender := attentive.sender
        signal_sender := attentive.signal_sender
        signal_task := attentive.signal_task
        told _ := attentive.told (by rw [loop]; rfl) }
  | returned =>
      unfold Server.advance
      rw [loop]
      exact attentive

end Loop

section Events

variable [Chrono] [SerdeJson] {before : Server}

theorem Attentive.step (attentive : Attentive before) (event : ServerEvent) :
    Attentive (server.step before event).2 := by
  have shutdown := attentive.shutdown
  have signal := attentive.signal
  cases event with
  | cloneHandle =>
      exact attentive.withShutdown ⟨shutdown.receiver, shutdown.sent, shutdown.unseen⟩
        (Nat.succ_ne_zero _) id
  | dropHandle =>
      simp only [server]
      split_ifs with spare
      · exact attentive.withShutdown ⟨shutdown.receiver, shutdown.sent, shutdown.unseen⟩
          (Nat.sub_ne_zero_of_lt spare) id
      · exact attentive
  | shutdown =>
      simp only [server]
      split_ifs
      · exact attentive.withShutdown shutdown.send
          (by rw [Watch.send_senders]; exact attentive.sender) send_true
      · exact attentive
  | install works =>
      simp only [server]
      split_ifs with installing
      · have owned := attentive.signal_sender
        rw [installing] at owned
        exact attentive.withSignal signal owned
          (fun sent => absurd (attentive.signal_task sent) (by simp [installing])) id
      · have owned := attentive.signal_sender
        rw [installing] at owned
        refine attentive.withSignal ⟨signal.receiver, signal.sent, signal.unseen⟩ ?_
          (fun _ => rfl) id
        exact congrArg (· - 1) owned
      · exact attentive
  | signal =>
      simp only [server]
      split_ifs with waiting
      · have sent := signal.send
        have owned := attentive.signal_sender
        rw [waiting] at owned
        refine attentive.withSignal ⟨sent.receiver, sent.sent, sent.unseen⟩ ?_
          (fun _ => rfl) send_true
        exact congrArg (· - 1) ((Watch.send_senders _ _).trans owned)
      · exact attentive
  | loop accept => exact attentive.advance accept
  | poll connection =>
      simp only [server, poll]
      split_ifs <;> exact attentive.frame rfl rfl rfl rfl
  | park connection =>
      simp only [server, park]
      split_ifs <;> exact attentive.frame rfl rfl rfl rfl
  | line | flush | hangup =>
      simp only [server, whilePolled]
      split_ifs <;> exact attentive.frame rfl rfl rfl rfl

theorem attentive_run (events : List ServerEvent) : Attentive (server.run .bound events) :=
  Mealy.invariant attentive_bound (fun _ event attentive => attentive.step event) events

/-! ## Steps beside the loop -/

/-- What a step does to the channels and to the loop. -/
inductive Turn (before : Server) : ServerEvent → Option NetworkEvent × Server → Prop
  /-- The loop goes on. -/
  | loop (accept : Accept) : Turn before (.loop accept) (before.advance accept)
  /-- A handle is used. -/
  | handle {event : ServerEvent} {channel : Watch Bool} (unlooped : event.isLoop = false)
      (keeps : before.shutdown.value = true → channel.value = true) :
      Turn before event (none, { before with shutdown := channel })
  /-- The signal task goes on. -/
  | signal {event : ServerEvent} {channel : Watch Bool} {task : SignalTask}
      (unlooped : event.isLoop = false)
      (live : before.signalTask ≠ .ended)
      (keeps : before.signal.value = true → channel.value = true) :
      Turn before event (none, { before with signal := channel, signalTask := task })
  /-- Something happens on a connection. -/
  | connection {event : ServerEvent} {output : Option NetworkEvent} {after : Server}
      (unlooped : event.isLoop = false) (quiet : output.bind NetworkEvent.accepted = none)
      (shutdown : after.shutdown = before.shutdown)
      (signal : after.signal = before.signal) (task : after.signalTask = before.signalTask)
      (loop : after.loop = before.loop) (inflight : after.inflight = before.inflight) :
      Turn before event (output, after)

theorem step_turn (before : Server) (event : ServerEvent) :
    Turn before event (server.step before event) := by
  have still {event : ServerEvent} (unlooped : event.isLoop = false) :
      Turn before event (none, before) := .connection unlooped rfl rfl rfl rfl rfl rfl
  cases event with
  | loop accept => exact .loop accept
  | cloneHandle => exact .handle rfl id
  | dropHandle =>
      simp only [server]
      split_ifs
      · exact .handle rfl id
      · exact still rfl
  | shutdown =>
      simp only [server]
      split_ifs
      · exact .handle rfl send_true
      · exact still rfl
  | install works =>
      simp only [server]
      split_ifs with installing
      · exact .signal rfl (by simp [installing]) id
      · exact .signal rfl (by simp [installing]) id
      · exact still rfl
  | signal =>
      simp only [server]
      split_ifs with waiting
      · exact .signal rfl (by simp [waiting]) send_true
      · exact still rfl
  | poll connection =>
      simp only [server, poll]
      split_ifs <;> exact .connection rfl rfl rfl rfl rfl rfl rfl
  | park connection =>
      simp only [server, park]
      split_ifs <;> exact .connection rfl rfl rfl rfl rfl rfl rfl
  | line | flush | hangup =>
      simp only [server, whilePolled]
      split_ifs <;> exact .connection rfl rfl rfl rfl rfl rfl rfl

/-! ## No further connections -/

/-- The connection which a step accepts. -/
def accepted (step : ServerTransition) : Option Nat := step.output.bind NetworkEvent.accepted

/-- A step of the loop which takes nothing back, accepts nothing, and lowers its chances. -/
theorem Closing.advance (closing : Closing before) (attentive : Attentive before)
    (accept : Accept) : Closing (before.advance accept).2 ∧
      ((before.advance accept).1.bind NetworkEvent.accepted).toList.length +
        (before.advance accept).2.chances ≤ before.chances := by
  cases loop : before.loop with
  | external =>
      rw [advance_external attentive loop]
      dsimp only
      split_ifs with asked
      · exact ⟨.inl asked, Nat.zero_le _⟩
      · have ended : before.signalTask = .ended := closing.resolve_left asked
        exact ⟨.inr ended, by simp [chances, ended]⟩
  | signalled =>
      have chance : before.chances = if before.signalTask = .ended then 0 else 1 := by
        rw [chances, loop]
      rw [advance_signalled attentive loop, chance]
      dsimp only
      split_ifs with came ended
      · exact ⟨closing, Nat.le_refl 0⟩
      · exact ⟨closing, Nat.zero_le 1⟩
      · exact ⟨closing, Nat.le_refl 0⟩
      · exact ⟨closing, Nat.le_refl 1⟩
  | accepting =>
      have chance : before.chances = 1 := by rw [chances, loop]
      rw [chance]
      unfold Server.advance
      rw [loop]
      cases accept with
      | pending | failed => exact ⟨closing, Nat.zero_le 1⟩
      | connected => exact ⟨closing, Nat.le_refl 1⟩
  | aborting inflight =>
      unfold Server.advance
      rw [loop]
      cases inflight with
      | nil => exact ⟨closing, Nat.zero_le _⟩
      | cons connection rest => exact ⟨closing, Nat.zero_le _⟩
  | unlinking =>
      unfold Server.advance
      rw [loop]
      exact ⟨closing, Nat.zero_le _⟩
  | returned =>
      unfold Server.advance
      rw [loop]
      exact ⟨closing, by simp⟩

theorem Closing.step (closing : Closing before) (attentive : Attentive before)
    (event : ServerEvent) : Closing (server.step before event).2 ∧
      ((server.step before event).1.bind NetworkEvent.accepted).toList.length +
        (server.step before event).2.chances ≤ before.chances := by
  generalize made : server.step before event = result
  have turn : Turn before event result := made ▸ step_turn before event
  cases turn with
  | loop accept => exact closing.advance attentive accept
  | handle unlooped keeps => exact ⟨closing.imp_left keeps, Nat.le_of_eq (Nat.zero_add _)⟩
  | signal unlooped live keeps =>
      refine ⟨.inl (closing.resolve_right live), ?_⟩
      exact (Nat.zero_add _).trans_le (chances_mono rfl fun ended => absurd ended live)
  | connection unlooped quiet shutdown signal task loop inflight =>
      rw [quiet, Closing, isShuttingDown, shutdown, task]
      exact ⟨closing, (Nat.zero_add _).trans_le (chances_mono loop task.trans)⟩

theorem attentive_later (events later : List ServerEvent) :
    Attentive (server.run (server.run .bound events) later) := by
  rw [← Mealy.run_append]
  exact attentive_run _

theorem closing_later {events : List ServerEvent} (closing : (server.run .bound events).Closing)
    (later : List ServerEvent) : (server.run (server.run .bound events) later).Closing := by
  induction later using List.reverseRecOn with
  | nil => exact closing
  | append_singleton later event ih =>
      rw [Mealy.run_snoc]
      exact (ih.step (attentive_later events later) event).1

/-- Connections are accepted out of the chances left. -/
theorem closing_spends {events : List ServerEvent} (closing : (server.run .bound events).Closing)
    (later : List ServerEvent) :
    ((server.trace (server.run .bound events) later).filterMap accepted).length ≤
      (server.run .bound events).chances := by
  have spent : ((server.trace (server.run .bound events) later).filterMap accepted).length +
      (server.run (server.run .bound events) later).chances ≤
        (server.run .bound events).chances := by
    refine Mealy.length_filterMap_le_potential fun step member => ?_
    obtain ⟨front, event, back, rfl, rfl⟩ := Mealy.mem_trace.mp member
    exact ((closing_later closing front).step (attentive_later events front) event).2
  omega

/-- Once a handle has asked for a shutdown, a signal has come or the signal handlers could not be
installed, at most one more connection is accepted, and none while the loop is in front of its
channels or past its end. -/
theorem closing_accepts_once (events later : List ServerEvent)
    (closing : (server.run .bound events).Closing) :
    ((server.trace (server.run .bound events) later).filterMap accepted).length ≤ 1 ∧
      ((server.run .bound events).loop ≠ .signalled →
        (server.run .bound events).loop ≠ .accepting →
        (server.trace (server.run .bound events) later).filterMap accepted = []) := by
  have spent := closing_spends closing later
  refine ⟨spent.trans (chances_le _), fun unsignalled unaccepting => ?_⟩
  have none_left : (server.run .bound events).chances = 0 := by
    unfold chances
    split
    next accepting => exact absurd accepting unaccepting
    next signalled => exact absurd signalled unsignalled
    next => rfl
  exact List.eq_nil_of_length_eq_zero (Nat.le_zero.mp (none_left ▸ spent))

/-! ## Who turns the loop away -/

/-- A handle asks for a shutdown while the listener runs. -/
def AsksShutdown (step : ServerTransition) : Prop :=
  step.event = .shutdown ∧ 1 < step.before.shutdown.senders ∧ step.before.loop ≠ .returned

/-- A signal comes for which the handlers are installed, while the listener runs. -/
def BringsSignal (step : ServerTransition) : Prop :=
  step.event = .signal ∧ step.before.signalTask = .waiting ∧ step.before.loop ≠ .returned

/-- The loop sends nothing. -/
theorem advance_values (attentive : Attentive before) (accept : Accept) :
    (before.advance accept).2.shutdown.value = before.shutdown.value ∧
      (before.advance accept).2.signal.value = before.signal.value ∧
      (before.advance accept).2.signalTask = before.signalTask := by
  cases loop : before.loop with
  | external =>
      rw [advance_external attentive loop]
      dsimp only
      split_ifs <;> exact ⟨rfl, rfl, rfl⟩
  | signalled =>
      rw [advance_signalled attentive loop]
      dsimp only
      split_ifs <;> exact ⟨rfl, rfl, rfl⟩
  | accepting =>
      unfold Server.advance
      rw [loop]
      cases accept <;> exact ⟨rfl, rfl, rfl⟩
  | aborting inflight =>
      unfold Server.advance
      rw [loop]
      cases inflight with
      | nil => exact ⟨rfl, rfl, rfl⟩
      | cons connection rest => exact ⟨rfl, rfl, rfl⟩
  | unlinking =>
      unfold Server.advance
      rw [loop]
      exact ⟨rfl, rfl, rfl⟩
  | returned =>
      unfold Server.advance
      rw [loop]
      exact ⟨rfl, rfl, rfl⟩

theorem shutdown_value_step (attentive : Attentive before) (event : ServerEvent) :
    (server.step before event).2.isShuttingDown = true ↔
      before.isShuttingDown = true ∨ AsksShutdown (server.transition before event) := by
  have unasked (other : event ≠ .shutdown)
      (same : (server.step before event).2.shutdown.value = before.shutdown.value) :
      (server.step before event).2.isShuttingDown = true ↔
        before.isShuttingDown = true ∨ AsksShutdown (server.transition before event) := by
    rw [isShuttingDown, same, or_iff_left fun asks => other asks.1]
    rfl
  cases event with
  | shutdown =>
      have asks : AsksShutdown (server.transition before .shutdown) ↔
          1 < before.shutdown.senders ∧ before.loop ≠ .returned := and_iff_right rfl
      rw [asks]
      simp only [server]
      split_ifs with handle
      · rw [and_iff_right handle]
        exact attentive.shutdown.send_value
      · exact (or_iff_left fun due => handle due.1).symm
  | loop accept => exact unasked (by simp) (advance_values attentive accept).1
  | cloneHandle => exact unasked (by simp) rfl
  | dropHandle | install | signal =>
      refine unasked (by simp) ?_
      simp only [server]
      split_ifs <;> rfl
  | poll | park =>
      refine unasked (by simp) ?_
      simp only [server, poll, park]
      split_ifs <;> rfl
  | line | flush | hangup =>
      refine unasked (by simp) ?_
      simp only [server, whilePolled]
      split_ifs <;> rfl

theorem signal_value_step (attentive : Attentive before) (event : ServerEvent) :
    (server.step before event).2.signal.value = true ↔
      before.signal.value = true ∨ BringsSignal (server.transition before event) := by
  have silent (other : event ≠ .signal)
      (same : (server.step before event).2.signal.value = before.signal.value) :
      (server.step before event).2.signal.value = true ↔
        before.signal.value = true ∨ BringsSignal (server.transition before event) := by
    rw [same, or_iff_left fun brings => other brings.1]
  cases event with
  | signal =>
      have brings : BringsSignal (server.transition before .signal) ↔
          before.signalTask = .waiting ∧ before.loop ≠ .returned := and_iff_right rfl
      rw [brings]
      simp only [server]
      split_ifs with waiting
      · rw [and_iff_right waiting]
        exact attentive.signal.send_value
      · exact (or_iff_left fun due => waiting due.1).symm
  | loop accept => exact silent (by simp) (advance_values attentive accept).2.1
  | cloneHandle => exact silent (by simp) rfl
  | dropHandle | shutdown | install =>
      refine silent (by simp) ?_
      simp only [server]
      split_ifs <;> rfl
  | poll | park =>
      refine silent (by simp) ?_
      simp only [server, poll, park]
      split_ifs <;> rfl
  | line | flush | hangup =>
      refine silent (by simp) ?_
      simp only [server, whilePolled]
      split_ifs <;> rfl

theorem isShuttingDown_iff (events : List ServerEvent) :
    (server.run .bound events).isShuttingDown = true ↔
      ∃ step ∈ server.trace .bound events, AsksShutdown step := by
  refine Mealy.latched_iff (fun server : Server => server.isShuttingDown = true) nofun
    fun step member => ?_
  obtain ⟨front, event, back, rfl, rfl⟩ := Mealy.mem_trace.mp member
  exact shutdown_value_step (attentive_run front) event

theorem signal_value_iff (events : List ServerEvent) :
    (server.run .bound events).signal.value = true ↔
      ∃ step ∈ server.trace .bound events, BringsSignal step := by
  refine Mealy.latched_iff (fun server : Server => server.signal.value = true) nofun
    fun step member => ?_
  obtain ⟨front, event, back, rfl, rfl⟩ := Mealy.mem_trace.mp member
  exact signal_value_step (attentive_run front) event

/-- The loop is left only after a handle has asked for it or a signal has come, and
`is_shutting_down` tells of the former only. -/
theorem loop_over_told (events : List ServerEvent) :
    ((server.run .bound events).loop.isOver = true →
        ∃ step ∈ server.trace .bound events, AsksShutdown step ∨ BringsSignal step) ∧
      ((server.run .bound events).isShuttingDown = true ↔
        ∃ step ∈ server.trace .bound events, AsksShutdown step) := by
  refine ⟨fun finished => ?_, isShuttingDown_iff events⟩
  rcases (attentive_run events).told finished with asked | came
  · obtain ⟨step, member, asks⟩ := (isShuttingDown_iff events).mp asked
    exact ⟨step, member, .inl asks⟩
  · obtain ⟨step, member, brings⟩ := (signal_value_iff events).mp came
    exact ⟨step, member, .inr brings⟩

/-- At the top of the loop, a connection which waits is accepted on the way round exactly if no
handle has asked for a shutdown and the signal task is alive. -/
theorem accepts_iff (events : List ServerEvent)
    (external : (server.run .bound events).loop = .external) (first second : Accept) :
    (server.trace (server.run .bound events)
        [.loop first, .loop second, .loop .connected]).filterMap accepted =
        [(server.run .bound events).inflight.length] ↔
      ¬(server.run .bound events).Closing := by
  have attentive := attentive_run events
  constructor
  · intro accepts closing
    have spent := closing_spends closing [.loop first, .loop second, .loop .connected]
    have none_left : (server.run .bound events).chances = 0 := by rw [chances, external]
    rw [accepts, none_left] at spent
    exact absurd spent nofun
  · intro serving
    obtain ⟨unasked, live⟩ := not_or.mp serving
    have unsignalled : (server.run .bound events).signal.value ≠ true :=
      mt attentive.signal_task live
    generalize server.run .bound events = before at attentive external unasked unsignalled live ⊢
    have next : server.step before (.loop first) = (none, { before with loop := .signalled }) := by
      change before.advance first = _
      rw [advance_external attentive external, if_neg unasked]
    have waiting : Attentive { before with loop := .signalled } :=
      attentive.move (by rw [external]; nofun) nofun (by rw [external]; rfl)
    have last : server.step { before with loop := .signalled } (.loop second) =
        (none, { before with loop := .accepting }) := by
      change Server.advance { before with loop := .signalled } second = _
      rw [advance_signalled waiting rfl, if_neg unsignalled, if_neg live]
    simp only [Mealy.trace_cons, Mealy.trace_nil, Mealy.transition, next, last]
    rfl

theorem install_failed (installing : before.signalTask = .installing) :
    server.step before (.install false) =
      (none, { before with signalTask := .ended, signal := before.signal.dropSender }) := by
  simp only [server]
  rw [if_pos installing]
  rfl

/-- A signal task which has ended stays so. -/
theorem ended_step (attentive : Attentive before) (ended : before.signalTask = .ended)
    (event : ServerEvent) : (server.step before event).2.signalTask = .ended := by
  generalize made : server.step before event = result
  have turn : Turn before event result := made ▸ step_turn before event
  cases turn with
  | loop accept => exact (advance_values attentive accept).2.2.trans ended
  | handle => exact ended
  | signal unlooped live keeps => exact absurd ended live
  | connection unlooped quiet shutdown signal task loop inflight => exact task.trans ended

/-- No signal comes through after the signal task has ended without one. -/
theorem mute_later {events : List ServerEvent}
    (ended : (server.run .bound events).signalTask = .ended)
    (silent : (server.run .bound events).signal.value = false) (later : List ServerEvent) :
    (server.run (server.run .bound events) later).signalTask = .ended ∧
      (server.run (server.run .bound events) later).signal.value = false := by
  induction later using List.reverseRecOn with
  | nil => exact ⟨ended, silent⟩
  | append_singleton later event ih =>
      have attentive := attentive_later events later
      obtain ⟨still_ended, still_silent⟩ := ih
      rw [Mealy.run_snoc]
      refine ⟨ended_step attentive still_ended event, Bool.eq_false_iff.mpr fun value => ?_⟩
      rcases (signal_value_step attentive event).mp value with before | brings
      · exact absurd (still_silent.symm.trans before) nofun
      · exact absurd (still_ended.symm.trans brings.2.1) nofun

/-- A daemon whose signal handlers cannot be installed accepts at most one more connection, and its
loop is left only after a handle has asked for it. -/
theorem deaf_without_handlers (events later : List ServerEvent)
    (installing : (server.run .bound events).signalTask = .installing) :
    ((server.trace (server.run .bound (events ++ [.install false])) later).filterMap
        accepted).length ≤ 1 ∧
      ((server.run (server.run .bound (events ++ [.install false])) later).loop.isOver = true →
        (server.run (server.run .bound (events ++ [.install false])) later).isShuttingDown =
          true) := by
  have failed : server.run .bound (events ++ [.install false]) = _ :=
    (Mealy.run_snoc ..).trans (congrArg Prod.snd (install_failed installing))
  have ended : (server.run .bound (events ++ [.install false])).signalTask = .ended := by
    rw [failed]
  have silent : (server.run .bound (events ++ [.install false])).signal.value = false := by
    rw [failed]
    exact Bool.eq_false_iff.mpr (mt (attentive_run events).signal_task (installing ▸ nofun))
  refine ⟨(closing_spends (.inr ended) later).trans (chances_le _), fun finished => ?_⟩
  refine ((attentive_later _ later).told finished).resolve_right ?_
  rw [(mute_later ended silent later).2]
  exact Bool.false_ne_true

end Events

section Bound

attribute [local instance] Chrono.utc compactJson

theorem accepts_iff_bound :
    (server.trace (server.run .bound [])
        [.loop .pending, .loop .pending, .loop .connected]).filterMap accepted = [0] ↔
      ¬Closing .bound :=
  accepts_iff [] rfl .pending .pending

theorem closing_accepts_once_accepting :
    ((server.trace
      (server.run .bound [.cloneHandle, .loop .pending, .loop .pending, .shutdown])
        [.loop .connected, .loop .connected]).filterMap accepted).length ≤ 1 :=
  (closing_accepts_once [.cloneHandle, .loop .pending, .loop .pending, .shutdown]
    [.loop .connected, .loop .connected] (.inl rfl)).1

theorem deaf_without_handlers_bound :
    ((server.trace (server.run .bound [.install false])
      [.loop .connected, .loop .connected, .loop .connected]).filterMap accepted).length ≤ 1 :=
  (deaf_without_handlers [] [.loop .connected, .loop .connected, .loop .connected] rfl).1

end Bound

end Server

end TeamComm
