import TeamComm.Properties.AcceptLoop

/-!
# Shutdown

A loop which has been told to end returns after a bounded number of its own steps, and aborts every
task on the way.  It does not wait for them: a task lives on until a worker drops it, at the end of
the poll which it is in or in place of its next one.
-/

namespace TeamComm

namespace Server

/-! ## The way out -/

/-- How many of its own steps a loop takes at most which has been told to end. -/
def rank (server : Server) : Nat :=
  match server.loop with
  | .external => server.inflight.length + if server.isShuttingDown then 3 else 4
  | .signalled => server.inflight.length + if server.signal.value then 3 else 6
  | .accepting => server.inflight.length + if server.isShuttingDown then 5 else 6
  | .aborting inflight => inflight.length + 2
  | .unlinking => 1
  | .returned => 0

theorem rank_mono {server after : Server} (loop : after.loop = server.loop)
    (inflight : after.inflight = server.inflight)
    (asked : server.isShuttingDown = true → after.isShuttingDown = true)
    (came : server.signal.value = true → after.signal.value = true) :
    after.rank ≤ server.rank := by
  unfold rank
  rw [loop, inflight]
  split
  · grind
  · grind
  · grind
  · exact Nat.le_refl _
  · exact Nat.le_refl _
  · exact Nat.le_refl _

/-- The connections whose tasks are still to be aborted. -/
def pending (server : Server) : List Nat :=
  match server.loop with
  | .external | .signalled | .accepting => server.inflight
  | .aborting inflight => inflight
  | .unlinking | .returned => []

/-- No task is forgotten on the way out. -/
structure Tracked (server : Server) : Prop where
  /-- The tasks to be aborted are the last which were spawned. -/
  pending : server.pending <:+ server.inflight
  /-- An open connection is still to be aborted, or is aborted. -/
  tracked : ∀ connection, server.IsOpen connection →
    connection ∈ server.pending ∨ server.aborted connection = true
  /-- The loop aborts nothing as long as it turns. -/
  unaborted : server.loop.isOver = false → ∀ connection, server.aborted connection = false

theorem tracked_bound : Tracked .bound where
  pending := List.suffix_refl _
  tracked _ := nofun
  unaborted _ _ := rfl

/-- A step in which no connection is opened. -/
theorem Tracked.frame {server after : Server} (tracked : Tracked server)
    (loop : after.loop = server.loop) (inflight : after.inflight = server.inflight)
    (aborted : after.aborted = server.aborted)
    (opened : ∀ connection, after.IsOpen connection → server.IsOpen connection) :
    Tracked after where
  pending := by
    unfold Server.pending
    rw [loop, inflight]
    exact tracked.pending
  tracked connection is_open := by
    unfold Server.pending
    rw [loop, inflight, aborted]
    exact tracked.tracked connection (opened connection is_open)
  unaborted := by
    rw [loop, aborted]
    exact tracked.unaborted

/-- The loop goes on, and so do its channels. -/
theorem Tracked.moved {before after : Server} (tracked : Tracked before)
    (net : after.net = before.net)
    (pending : after.pending = before.pending) (inflight : after.inflight = before.inflight)
    (aborted : after.aborted = before.aborted)
    (finished : after.loop.isOver = false → before.loop.isOver = false) : Tracked after where
  pending := by rw [pending, inflight]; exact tracked.pending
  tracked connection is_open := by
    rw [IsOpen, net] at is_open
    rw [pending, aborted]
    exact tracked.tracked connection is_open
  unaborted in_loop := by rw [aborted]; exact tracked.unaborted (finished in_loop)

theorem Tracked.rank_le {server : Server} (tracked : Tracked server) :
    server.rank ≤ server.inflight.length + 6 := by
  have length := tracked.pending.length_le
  cases loop : server.loop with
  | external | signalled | accepting =>
      simp only [rank, loop]
      split_ifs <;> omega
  | aborting inflight =>
      simp only [Server.pending, loop] at length
      simp only [rank, loop]
      omega
  | unlinking | returned =>
      simp only [rank, loop]
      omega

theorem returned_of_rank {server : Server} (done : server.rank = 0) : server.loop = .returned := by
  cases loop : server.loop with
  | external | signalled | accepting =>
      simp only [rank, loop] at done
      split_ifs at done
  | aborting inflight =>
      simp only [rank, loop] at done
      omega
  | unlinking => simp [rank, loop] at done
  | returned => rfl

section Events

variable [Chrono] [SerdeJson] {before : Server}

/-! ## The end of the loop -/

theorem Told.advance (told : Told before) (attentive : Attentive before) (accept : Accept) :
    Told (before.advance accept).2 ∧ (before.advance accept).2.rank ≤ before.rank - 1 := by
  cases loop : before.loop with
  | external =>
      have rank :
          before.rank = before.inflight.length + if before.isShuttingDown then 3 else 4 := by
        rw [rank, loop]
      rw [advance_external attentive loop, rank]
      dsimp only
      split_ifs with asked
      · exact ⟨told, Nat.le_refl _⟩
      · have came : before.signal.value = true := told.resolve_left asked
        exact ⟨told, by simp [Server.rank, came]⟩
  | signalled =>
      have rank : before.rank = before.inflight.length + if before.signal.value then 3 else 6 := by
        rw [rank, loop]
      rw [advance_signalled attentive loop, rank]
      dsimp only
      split_ifs with came ended
      · exact ⟨told, Nat.le_refl _⟩
      all_goals
        have asked : before.shutdown.value = true := told.resolve_right came
        exact ⟨told, by simp [Server.rank, isShuttingDown, asked]⟩
  | accepting =>
      have rank :
          before.rank = before.inflight.length + if before.isShuttingDown then 5 else 6 := by
        rw [rank, loop]
      rw [rank]
      unfold Server.advance
      rw [loop]
      cases accept with
      | pending | failed =>
          refine ⟨told, ?_⟩
          change before.inflight.length + (if before.isShuttingDown then 3 else 4) ≤ _
          split_ifs <;> omega
      | connected =>
          refine ⟨told, ?_⟩
          change (before.inflight ++ [before.inflight.length]).length +
            (if before.isShuttingDown then 3 else 4) ≤ _
          rw [List.length_append, List.length_singleton]
          split_ifs <;> omega
  | aborting inflight =>
      have rank : before.rank = inflight.length + 2 := by rw [rank, loop]
      rw [rank]
      unfold Server.advance
      rw [loop]
      cases inflight with
      | nil => exact ⟨told, Nat.le_refl 1⟩
      | cons connection rest => exact ⟨told, Nat.le_refl _⟩
  | unlinking =>
      have rank : before.rank = 1 := by rw [rank, loop]
      rw [rank]
      unfold Server.advance
      rw [loop]
      exact ⟨told, Nat.le_refl 0⟩
  | returned =>
      unfold Server.advance
      rw [loop]
      exact ⟨told, by simp [Server.rank, loop]⟩

theorem Told.step (told : Told before) (attentive : Attentive before) (event : ServerEvent) :
    Told (server.step before event).2 ∧
      (server.step before event).2.rank ≤ before.rank - if event.isLoop then 1 else 0 := by
  have beside {after : Server} (rank : after.rank ≤ before.rank) (unlooped : event.isLoop = false) :
      after.rank ≤ before.rank - if event.isLoop then 1 else 0 := by
    rwa [unlooped]
  generalize made : server.step before event = result
  have turn : Turn before event result := made ▸ step_turn before event
  cases turn with
  | loop accept => exact told.advance attentive accept
  | handle unlooped keeps => 
      exact ⟨told.imp_left keeps, beside (rank_mono rfl rfl keeps id) unlooped⟩
  | signal unlooped live keeps =>
      exact ⟨told.imp_right keeps, beside (rank_mono rfl rfl id keeps) unlooped⟩
  | connection unlooped quiet shutdown signal task loop inflight =>
      rw [Told, isShuttingDown, shutdown, signal]
      refine ⟨told, beside (rank_mono loop inflight ?_ ?_) unlooped⟩
      · rw [isShuttingDown, isShuttingDown, shutdown]
        exact id
      · rw [signal]
        exact id

theorem told_later {events : List ServerEvent} (told : (server.run .bound events).Told)
    (later : List ServerEvent) : (server.run (server.run .bound events) later).Told := by
  induction later using List.reverseRecOn with
  | nil => exact told
  | append_singleton later event ih =>
      rw [Mealy.run_snoc]
      exact (ih.step (attentive_later events later) event).1

/-! ## The tasks -/

theorem isOpen_perform {event : NetworkEvent} {connection : Nat}
    (unaccepted : event ≠ .accept connection)
    (is_open : (before.perform event).2.IsOpen connection) : before.IsOpen connection :=
  Network.open_of_step unaccepted is_open

theorem Tracked.perform (tracked : Tracked before) {event : NetworkEvent}
    (quiet : event.accepted = none) : Tracked (before.perform event).2 := by
  refine tracked.frame rfl rfl rfl fun connection is_open => ?_
  refine isOpen_perform ?_ is_open
  rintro rfl
  cases quiet

theorem not_isOpen_hangup (server : Server) (connection : Nat) :
    ¬(server.perform (.hangup connection)).2.IsOpen connection := by
  have closed : (server.perform (.hangup connection)).2.net.phases connection = .closed :=
    Network.enter_self ..
  rw [IsOpen, closed]
  exact nofun

omit [Chrono] [SerdeJson] in
/-- The first of the tasks left is aborted. -/
theorem Tracked.abort (tracked : Tracked before) {connection : Nat} {rest : List Nat}
    (loop : before.loop = .aborting (connection :: rest)) :
    Tracked ({ before with loop := .aborting rest }.abort connection) := by
  have pending : before.pending = connection :: rest := by rw [Server.pending, loop]
  have suffix : rest <:+ before.inflight :=
    (List.suffix_cons connection rest).trans (pending ▸ tracked.pending)
  refine ⟨suffix, fun other is_open => ?_, nofun⟩
  by_cases same : other = connection
  · rw [same]
    exact .inr (Function.update_self ..)
  · have here := tracked.tracked other is_open
    rw [pending, List.mem_cons, or_assoc] at here
    exact (here.resolve_left same).imp_right (Function.update_of_ne same _ _).trans

theorem Tracked.accept (tracked : Tracked before) (loop : before.loop = .accepting) :
    Tracked ({ before with
      loop := .external
      inflight := before.inflight ++ [before.inflight.length] }.perform
        (.accept before.inflight.length)).2 := by
  have unaborted := tracked.unaborted (by rw [loop]; rfl)
  have pending : before.pending = before.inflight := by rw [Server.pending, loop]
  refine ⟨List.suffix_refl _, fun other is_open => .inl ?_, fun _ => unaborted⟩
  by_cases same : other = before.inflight.length
  · exact List.mem_append_right _ (same ▸ List.mem_cons_self)
  · have earlier : before.IsOpen other :=
      Network.open_of_step (fun new => same (NetworkEvent.accept.inj new).symm) is_open
    have here := tracked.tracked other earlier
    rw [pending, unaborted other] at here
    exact List.mem_append_left _ (here.resolve_right nofun)

theorem Tracked.advance (tracked : Tracked before) (attentive : Attentive before)
    (accept : Accept) : Tracked (before.advance accept).2 := by
  cases loop : before.loop with
  | external =>
      have pending : before.inflight = before.pending := by rw [Server.pending, loop]
      have in_loop : before.loop.isOver = false := by rw [loop]; rfl
      rw [advance_external attentive loop]
      dsimp only
      split_ifs <;> exact tracked.moved rfl pending rfl rfl fun _ => in_loop
  | signalled =>
      have pending : before.inflight = before.pending := by rw [Server.pending, loop]
      have in_loop : before.loop.isOver = false := by rw [loop]; rfl
      rw [advance_signalled attentive loop]
      dsimp only
      split_ifs <;> exact tracked.moved rfl pending rfl rfl fun _ => in_loop
  | accepting =>
      have pending : before.inflight = before.pending := by rw [Server.pending, loop]
      have in_loop : before.loop.isOver = false := by rw [loop]; rfl
      unfold Server.advance
      rw [loop]
      cases accept with
      | pending | failed => exact tracked.moved rfl pending rfl rfl fun _ => in_loop
      | connected => exact tracked.accept loop
  | aborting inflight =>
      unfold Server.advance
      rw [loop]
      cases inflight with
      | nil =>
          have pending : [] = before.pending := by rw [Server.pending, loop]
          exact tracked.moved rfl pending rfl rfl nofun
      | cons connection rest => exact tracked.abort loop
  | unlinking =>
      have pending : [] = before.pending := by rw [Server.pending, loop]
      unfold Server.advance
      rw [loop]
      exact tracked.moved rfl pending rfl rfl nofun
  | returned =>
      unfold Server.advance
      rw [loop]
      exact tracked

theorem Tracked.step (tracked : Tracked before) (attentive : Attentive before)
    (event : ServerEvent) : Tracked (server.step before event).2 := by
  have opened {connection : Nat} {happening : NetworkEvent} (quiet : happening.accepted = none) :
      Tracked (before.whilePolled connection happening).2 := by
    unfold whilePolled
    split_ifs
    · exact tracked.perform quiet
    · exact tracked
  cases event with
  | loop accept => exact tracked.advance attentive accept
  | cloneHandle => exact tracked.frame rfl rfl rfl fun _ => id
  | dropHandle | shutdown | install | signal =>
      simp only [server]
      split_ifs <;> exact tracked.frame rfl rfl rfl fun _ => id
  | poll connection =>
      simp only [server, poll]
      split_ifs
      · exact tracked.perform rfl
      · exact tracked.frame rfl rfl rfl fun _ => id
  | park connection =>
      simp only [server, park]
      split_ifs
      · exact tracked.frame rfl rfl rfl fun other => isOpen_perform (by simp)
      · exact tracked.frame rfl rfl rfl fun _ => id
      · exact tracked
  | line connection text env => exact opened rfl
  | flush connection => exact opened rfl
  | hangup connection => exact opened rfl

theorem tracked_run (events : List ServerEvent) : Tracked (server.run .bound events) := by
  induction events using List.reverseRecOn with
  | nil => exact tracked_bound
  | append_singleton events event ih =>
      rw [Mealy.run_snoc]
      exact ih.step (attentive_run events) event

/-- Once a handle has asked for a shutdown or a signal has come, the listener returns after a
bounded number of its own steps, whatever clients, tasks and other handles do meanwhile. -/
theorem told_returns (events later : List ServerEvent) (told : (server.run .bound events).Told)
    (enough : (server.run .bound events).inflight.length + 6 ≤ later.countP ServerEvent.isLoop) :
    (server.run (server.run .bound events) later).loop = .returned := by
  have spent : (server.run (server.run .bound events) later).rank ≤
      (server.run .bound events).rank - later.countP ServerEvent.isLoop := by
    refine Mealy.potential_run_le fun step member => ?_
    obtain ⟨front, event, back, rfl, rfl⟩ := Mealy.mem_trace.mp member
    exact ((told_later told front).step (attentive_later events front) event).2
  have bound := (tracked_run events).rank_le
  exact returned_of_rank (by omega)

/-- A listener which has returned has aborted every task it leaves behind. -/
theorem aborted_of_returned {events : List ServerEvent}
    (returned : (server.run .bound events).loop = .returned) {connection : Nat}
    (is_open : (server.run .bound events).IsOpen connection) :
    (server.run .bound events).aborted connection = true := by
  have here := (tracked_run events).tracked connection is_open
  rw [Server.pending, returned] at here
  exact here.resolve_left List.not_mem_nil

/-! ## After the return -/

theorem advance_returned (returned : before.loop = .returned) (accept : Accept) :
    before.advance accept = (none, before) := by
  unfold Server.advance
  rw [returned]

theorem returned_step (returned : before.loop = .returned) (event : ServerEvent) :
    (server.step before event).2.loop = .returned ∧
      (server.step before event).1.bind NetworkEvent.accepted = none := by
  generalize made : server.step before event = result
  have turn : Turn before event result := made ▸ step_turn before event
  cases turn with
  | loop accept =>
      rw [advance_returned returned]
      exact ⟨returned, rfl⟩
  | handle | signal => exact ⟨returned, rfl⟩
  | connection unlooped quiet shutdown signal task loop inflight =>
      exact ⟨loop.trans returned, quiet⟩

/-- No connection is opened after the return. -/
theorem isOpen_of_returned (returned : before.loop = .returned) {event : ServerEvent}
    {connection : Nat} (is_open : (server.step before event).2.IsOpen connection) :
    before.IsOpen connection := by
  have quiet := (returned_step returned event).2
  have net := (server_step_tells before event).net
  cases output : (server.step before event).1 with
  | none =>
      rw [output] at net
      rwa [IsOpen, net] at is_open
  | some happening =>
      rw [output] at net quiet
      rw [IsOpen, net] at is_open
      refine Network.open_of_step ?_ is_open
      rintro rfl
      cases quiet

/-- The event at which a worker drops an aborted task: the end of the poll which it is in, or what
would be its next poll. -/
def lastTurn (server : Server) (connection : Nat) : ServerEvent :=
  if server.polled connection then .park connection else .poll connection

/-- Until a worker drops an aborted task, it is as it was: in its poll, or idle. -/
theorem left_step {connection : Nat} (returned : before.loop = .returned)
    (aborted : before.IsOpen connection → before.aborted connection = true) {event : ServerEvent}
    (is_open : (server.step before event).2.IsOpen connection) :
    before.IsOpen connection ∧
      (server.step before event).2.polled connection = before.polled connection ∧
      event ≠ before.lastTurn connection := by
  have was_open := isOpen_of_returned returned is_open
  have is_aborted := aborted was_open
  refine ⟨was_open, ?_⟩
  have beside {other : Nat} {value : Bool} (different : connection ≠ other) :
      Function.update before.polled other value connection = before.polled connection :=
    Function.update_of_ne different ..
  have no_turn {event : ServerEvent} (parks : event ≠ .park connection)
      (polls : event ≠ .poll connection) : event ≠ before.lastTurn connection := by
    unfold lastTurn
    split_ifs
    · exact parks
    · exact polls
  cases event with
  | poll other =>
      simp only [server, poll] at is_open ⊢
      by_cases same : connection = other
      · subst same
        split_ifs at is_open ⊢ with dropped
        · exact absurd is_open (not_isOpen_hangup _ _)
        · have polled : before.polled connection = true := by simpa [is_aborted] using dropped
          exact ⟨(Function.update_self ..).trans polled.symm, by simp [lastTurn, polled]⟩
      · refine ⟨?_, no_turn (by simp) fun turn => same (ServerEvent.poll.inj turn).symm⟩
        split_ifs
        · rfl
        · exact beside same
  | park other =>
      simp only [server, park] at is_open ⊢
      by_cases same : connection = other
      · subst same
        split_ifs at is_open ⊢ with polled
        · exact absurd is_open (not_isOpen_hangup _ _)
        · exact ⟨rfl, by simp [lastTurn, polled]⟩
      · refine ⟨?_, no_turn (fun turn => same (ServerEvent.park.inj turn).symm) (by simp)⟩
        split_ifs
        · exact beside same
        · exact beside same
        · rfl
  | loop accept =>
      refine ⟨?_, no_turn (by simp) (by simp)⟩
      exact congrArg (·.2.polled connection) (advance_returned returned accept)
  | cloneHandle => exact ⟨rfl, no_turn (by simp) (by simp)⟩
  | dropHandle | shutdown | install | signal =>
      refine ⟨?_, no_turn (by simp) (by simp)⟩
      simp only [server]
      split_ifs <;> rfl
  | line | flush | hangup =>
      refine ⟨?_, no_turn (by simp) (by simp)⟩
      simp only [server, whilePolled]
      split_ifs <;> rfl

/-- Nothing happens any more once no connection is open. -/
theorem still_step (returned : before.loop = .returned)
    (closed : ∀ connection, ¬before.IsOpen connection) (event : ServerEvent) :
    (server.step before event).2.net = before.net := by
  have idle {connection : Nat} {happening : NetworkEvent} :
      (before.whilePolled connection happening).2.net = before.net := by
    unfold whilePolled
    rw [if_neg (not_and_of_not_left _ (closed connection))]
  have hung_up (changed : Server) (net : changed.net = before.net) (connection : Nat) :
      (changed.perform (.hangup connection)).2.net = before.net := by
    change changed.net.enter connection .closed = before.net
    have phase : before.net.phases connection = .closed := by
      have here := closed connection
      unfold IsOpen at here
      cases phase : before.net.phases connection with
      | closed => rfl
      | reading | writing => exact absurd (by rw [phase]; rfl) here
    rw [net, Network.enter, ← phase, Function.update_eq_self]
  cases event with
  | loop accept => exact congrArg (·.2.net) (advance_returned returned accept)
  | cloneHandle => rfl
  | dropHandle | shutdown | install | signal =>
      simp only [server]
      split_ifs <;> rfl
  | poll connection =>
      simp only [server, poll]
      split_ifs
      · exact hung_up before rfl connection
      · rfl
  | park connection =>
      simp only [server, park]
      split_ifs
      · exact hung_up _ rfl connection
      · rfl
      · rfl
  | line | flush | hangup => exact idle

theorem returned_later {events : List ServerEvent}
    (returned : (server.run .bound events).loop = .returned) (later : List ServerEvent) :
    (server.run (server.run .bound events) later).loop = .returned ∧
      ∀ connection, (server.run (server.run .bound events) later).IsOpen connection →
        (server.run .bound events).IsOpen connection ∧
          (server.run (server.run .bound events) later).polled connection =
            (server.run .bound events).polled connection ∧
          (server.run .bound events).lastTurn connection ∉ later := by
  induction later using List.reverseRecOn with
  | nil => exact ⟨returned, fun _ is_open => ⟨is_open, rfl, List.not_mem_nil⟩⟩
  | append_singleton later event ih =>
      obtain ⟨still_returned, left⟩ := ih
      rw [Mealy.run_snoc]
      refine ⟨(returned_step still_returned event).1, fun connection is_open => ?_⟩
      have aborted (before_open :
          (server.run (server.run .bound events) later).IsOpen connection) :
          (server.run (server.run .bound events) later).aborted connection = true := by
        rw [← Mealy.run_append] at still_returned before_open ⊢
        exact aborted_of_returned still_returned before_open
      obtain ⟨before_open, same, other⟩ := left_step still_returned aborted is_open
      obtain ⟨from_open, polled, unturned⟩ := left connection before_open
      have turn : (server.run (server.run .bound events) later).lastTurn connection =
          (server.run .bound events).lastTurn connection := by rw [lastTurn, lastTurn, polled]
      rw [turn] at other
      exact ⟨from_open, same.trans polled, by simpa [unturned] using other.symm⟩

/-- A line is processed in a poll. -/
theorem polled_of_line (returned : before.loop = .returned) {event : ServerEvent}
    {connection : Nat} {text : String} {env : Env}
    (processed : (server.step before event).1 = some (.line connection text env)) :
    before.IsOpen connection ∧ before.polled connection = true := by
  have of_performed {other : Nat} {event : NetworkEvent}
      (performed : (before.whilePolled other event).1 = some (.line connection text env))
      (about : event = .line connection text env → other = connection) :
      before.IsOpen connection ∧ before.polled connection = true := by
    unfold whilePolled at performed
    split_ifs at performed with due
    exact about (Option.some.inj performed) ▸ due
  cases event with
  | line other other_text other_env =>
      exact of_performed processed fun same => (NetworkEvent.line.inj same).1
  | flush other => exact of_performed processed nofun
  | hangup other => exact of_performed processed nofun
  | loop accept =>
      change (before.advance accept).1 = _ at processed
      rw [advance_returned returned] at processed
      cases processed
  | poll other =>
      simp only [server, poll] at processed
      split_ifs at processed
      cases processed
  | park other =>
      simp only [server, park] at processed
      split_ifs at processed
      cases processed
  | cloneHandle | dropHandle | shutdown | install | signal => cases processed

/-- A listener which has returned has aborted the tasks which it leaves behind.  Those which are
idle process no line any more.  Once a worker has dropped each of them, no connection is open, and
whatever comes later changes nothing. -/
theorem returned_winds_down (events : List ServerEvent)
    (returned : (server.run .bound events).loop = .returned) :
    (∀ connection, (server.run .bound events).IsOpen connection →
      (server.run .bound events).aborted connection = true) ∧
    (∀ connection, (server.run .bound events).polled connection = false →
      ∀ later, ∀ step ∈ server.trace (server.run .bound events) later, ∀ text env,
        step.output ≠ some (.line connection text env)) ∧
    ∀ later, (∀ connection, (server.run .bound events).IsOpen connection →
        (server.run .bound events).lastTurn connection ∈ later) →
      (∀ connection, ¬(server.run .bound (events ++ later)).IsOpen connection) ∧
        ∀ rest, (server.run .bound (events ++ later ++ rest)).net =
          (server.run .bound (events ++ later)).net := by
  refine ⟨fun _ => aborted_of_returned returned, ?_, fun later turns => ?_⟩
  · intro connection idle later step member text env processed
    obtain ⟨front, event, back, rfl, rfl⟩ := Mealy.mem_trace.mp member
    obtain ⟨still_returned, left⟩ := returned_later returned front
    obtain ⟨is_open, polled⟩ := polled_of_line still_returned processed
    obtain ⟨-, same, -⟩ := left connection is_open
    rw [polled, idle] at same
    cases same
  · have closed (rest : List ServerEvent) (connection : Nat) :
        ¬(server.run (server.run .bound events) (later ++ rest)).IsOpen connection := by
      intro is_open
      obtain ⟨from_open, -, unturned⟩ :=
        (returned_later returned (later ++ rest)).2 connection is_open
      exact unturned (List.mem_append_left _ (turns connection from_open))
    constructor
    · rw [Mealy.run_append]
      simpa using closed []
    · intro rest
      induction rest using List.reverseRecOn with
      | nil => rw [List.append_nil]
      | append_singleton rest event ih =>
          rw [← List.append_assoc, Mealy.run_snoc, ← ih, List.append_assoc, Mealy.run_append]
          exact still_step (returned_later returned (later ++ rest)).1 (closed rest) event

end Events

section Leaving

attribute [local instance] Chrono.utc compactJson

/-- A connection is being polled when a handle asks for a shutdown. -/
def leavingEvents : List ServerEvent := [
  .install true, .cloneHandle, .loop .pending, .loop .pending, .loop .connected, .poll 0, .shutdown,
  .loop .pending, .loop .pending, .loop .pending, .loop .pending]

/-- One connection is being polled and another one is idle when the listener returns. -/
def returnedEvents : List ServerEvent := [
  .install true, .cloneHandle, .loop .pending, .loop .pending, .loop .connected, .loop .pending,
  .loop .pending, .loop .connected, .poll 0, .shutdown, .loop .pending, .loop .pending,
  .loop .pending, .loop .pending, .loop .pending]

theorem returned_winds_down_returnedEvents :
    (server.run .bound returnedEvents).IsOpen 0 ∧ (server.run .bound returnedEvents).IsOpen 1 ∧
      ∀ connection,
        ¬(server.run .bound (returnedEvents ++ [.park 0, .poll 1])).IsOpen connection := by
  refine ⟨by decide, by decide, ?_⟩
  refine ((returned_winds_down returnedEvents (by decide)).2.2 [.park 0, .poll 1] ?_).1
  intro connection is_open
  have opened : (server.run .bound returnedEvents).net.phases =
      Function.update (Function.update (fun _ => .closed) 0 .reading) 1 .reading := rfl
  have polled : (server.run .bound returnedEvents).polled =
      Function.update (fun _ => false) 0 true := rfl
  by_cases second : connection = 1
  · simp [lastTurn, polled, second]
  by_cases first : connection = 0
  · simp [lastTurn, polled, first]
  · rw [IsOpen, opened, Function.update_of_ne second, Function.update_of_ne first] at is_open
    cases is_open

theorem told_returns_leavingEvents :
    (server.run (server.run .bound (leavingEvents.take 7))
      (List.replicate 7 (.loop .pending))).loop =
      .returned :=
  told_returns (leavingEvents.take 7) (List.replicate 7 (.loop .pending)) (.inl rfl) (by decide)

end Leaving

end Server

end TeamComm
