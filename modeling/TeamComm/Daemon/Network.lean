import Mathlib.Logic.Function.Basic
import TeamComm.Daemon.Listener

/-!
# Connections over one state

Any number of connection tasks share the state.  A task reads a line, dispatches it and writes the
reply; in between the other tasks take their turns, its connection may break, and a shutdown may
abort it.  The state outlives the tasks.
-/

namespace TeamComm

open Json (Value)

/-- An envelope with the line it answers. -/
structure Reply where
  /-- The line as it was read, with what its call took from outside the state. -/
  line : String × Env
  /-- The envelope. -/
  envelope : Value

/-- Where the task of a connection stands. -/
inductive Phase
  /-- There is no task. -/
  | closed
  /-- The task waits for a line. -/
  | reading
  /-- The task has processed a line and not yet written the whole reply. -/
  | writing (reply : Reply)

/-- There is no task. -/
def Phase.isClosed : Phase → Bool
  | closed => true
  | reading | writing _ => false

/-- The state of the daemon, its connections, and what was written to clients. -/
structure Network where
  /-- The state behind the lock. -/
  state : AppStateInner
  /-- The phase of each connection. -/
  phases : Nat → Phase
  /-- The replies written from their first byte to the final newline, in order. -/
  written : List Reply

/-- A fresh daemon without connections. -/
def newNetwork : Network where
  state := newState
  phases _ := .closed
  written := []

/-- What happens next. -/
inductive NetworkEvent
  /-- A connection is accepted and its task spawned. -/
  | accept (connection : Nat)
  /-- A task reads a line and processes it up to the write of the reply. -/
  | line (connection : Nat) (text : String) (env : Env)
  /-- The write of a reply ends. -/
  | flush (connection : Nat)
  /-- A task ends, whatever it was doing: end of file, read or write error, idle timeout. -/
  | hangup (connection : Nat)
  /-- All tasks are aborted. -/
  | shutdown

/-- What the task of a connection does after a line. -/
def LineOutcome.phase (line : String × Env) : LineOutcome → Phase
  | .silent => .reading
  | .reply envelope => .writing ⟨line, envelope⟩
  | .dies => .closed

/-- Put a connection in a phase. -/
def Network.enter (net : Network) (connection : Nat) (phase : Phase) : Network :=
  { net with phases := Function.update net.phases connection phase }

/-- The connections as a machine which gives out the lines it processes.  An event which is not due
in the phase of its connection changes nothing. -/
def network [Chrono] [SerdeJson] : Mealy Network NetworkEvent (Option (String × Env)) where
  step net
    | .accept connection =>
        match net.phases connection with
        | .closed => (none, net.enter connection .reading)
        | _ => (none, net)
    | .line connection text env =>
        match net.phases connection with
        | .reading =>
            let (outcome, after) := processLine text env net.state
            (some (text, env),
              { net with state := after }.enter connection (outcome.phase (text, env)))
        | _ => (none, net)
    | .flush connection =>
        match net.phases connection with
        | .writing reply =>
            (none, { net with written := net.written ++ [reply] }.enter connection .reading)
        | _ => (none, net)
    | .hangup connection => (none, net.enter connection .closed)
    | .shutdown => (none, { net with phases := fun _ => .closed })

/-! ## Single events -/

namespace Network

theorem enter_self (net : Network) (connection : Nat) (phase : Phase) :
    (net.enter connection phase).phases connection = phase :=
  Function.update_self ..

theorem enter_of_ne (net : Network) {connection other : Nat} (phase : Phase)
    (different : other ≠ connection) :
    (net.enter connection phase).phases other = net.phases other :=
  Function.update_of_ne different ..

variable [Chrono] [SerdeJson] {net : Network} {connection : Nat}

theorem step_accept (closed : net.phases connection = .closed) :
    network.step net (.accept connection) = (none, net.enter connection .reading) := by
  simp only [network, closed]

theorem step_accept_open (isOpen : net.phases connection ≠ .closed) :
    network.step net (.accept connection) = (none, net) := by
  simp only [network]

theorem step_line (reading : net.phases connection = .reading) (text : String) (env : Env) :
    network.step net (.line connection text env) = (some (text, env),
      { net with state := (processLine text env net.state).2 }.enter connection
        ((processLine text env net.state).1.phase (text, env))) := by
  simp only [network, reading]

theorem step_line_busy (busy : net.phases connection ≠ .reading) (text : String) (env : Env) :
    network.step net (.line connection text env) = (none, net) := by
  simp only [network]

theorem step_flush {reply : Reply} (writing : net.phases connection = .writing reply) :
    network.step net (.flush connection) =
      (none, { net with written := net.written ++ [reply] }.enter connection .reading) := by
  simp only [network, writing]

theorem step_flush_idle (idle : ∀ reply, net.phases connection ≠ .writing reply) :
    network.step net (.flush connection) = (none, net) := by
  cases phase : net.phases connection with
  | writing reply => exact absurd phase (idle reply)
  | closed => simp only [network, phase]
  | reading => simp only [network, phase]

/-- Only an accept opens a connection. -/
theorem open_of_step {event : NetworkEvent} (unaccepted : event ≠ .accept connection)
    (is_open : ((network.step net event).2.phases connection).isClosed = false) :
    (net.phases connection).isClosed = false := by
  have entered {changed : Network} {other : Nat} {phase : Phase}
      (phases : changed.phases = net.phases) (from_open : (net.phases other).isClosed = false)
      (after : ((changed.enter other phase).phases connection).isClosed = false) :
      (net.phases connection).isClosed = false := by
    by_cases same : connection = other
    · exact same ▸ from_open
    · rwa [enter_of_ne _ _ same, phases] at after
  cases event with
  | accept other =>
      by_cases closed : net.phases other = .closed
      · have different : connection ≠ other := fun same => unaccepted (same ▸ rfl)
        rwa [step_accept closed, enter_of_ne _ _ different] at is_open
      · rwa [step_accept_open closed] at is_open
  | line other text env =>
      by_cases reading : net.phases other = .reading
      · rw [step_line reading] at is_open
        exact entered rfl (by rw [reading]; rfl) is_open
      · rwa [step_line_busy reading] at is_open
  | flush other =>
      cases phase : net.phases other with
      | writing reply =>
          rw [step_flush phase] at is_open
          exact entered rfl (by rw [phase]; rfl) is_open
      | closed | reading => rwa [step_flush_idle (by simp [phase])] at is_open
  | hangup other =>
      change ((net.enter other .closed).phases connection).isClosed = false at is_open
      by_cases same : connection = other
      · rw [same, enter_self] at is_open
        cases is_open
      · rwa [enter_of_ne _ _ same] at is_open
  | shutdown => cases is_open

end Network

end TeamComm
