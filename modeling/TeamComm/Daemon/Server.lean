import TeamComm.Daemon.Network
import TeamComm.Library.Watch

/-!
# The accept loop

The daemon from its bound socket to the return of its listener: the loop which polls two shutdown
channels and the socket, the task which waits for signals, the handles which ask for a shutdown, and
the runtime which polls the connection tasks.  Each of them goes on independently of the others.
-/

namespace TeamComm

/-- The task which waits for SIGINT and SIGTERM. -/
inductive SignalTask
  /-- It installs the two handlers. -/
  | installing
  /-- It waits for a signal. -/
  | waiting
  /-- It has ended, and its sender is gone. -/
  | ended
  deriving DecidableEq

/-- What the accept loop does next. -/
inductive LoopPhase
  /-- Poll the external shutdown, the first arm of `select!`. -/
  | external
  /-- Poll the signal shutdown, the second arm. -/
  | signalled
  /-- Poll the socket, the third arm. -/
  | accepting
  /-- Abort the tasks of these connections; the socket is closed. -/
  | aborting (inflight : List Nat)
  /-- Remove the socket file. -/
  | unlinking
  /-- `run` has returned. -/
  | returned
  deriving DecidableEq

/-- The loop is left. -/
def LoopPhase.isOver : LoopPhase → Bool
  | external | signalled | accepting => false
  | aborting _ | unlinking | returned => true

/-- The daemon with its tasks. -/
structure Server where
  /-- The state behind the lock, and the connections. -/
  net : Network
  /-- The channel of the handles; the daemon itself holds one sender. -/
  shutdown : Watch Bool
  /-- The channel of the signal task. -/
  signal : Watch Bool
  /-- The signal task. -/
  signalTask : SignalTask
  /-- The accept loop. -/
  loop : LoopPhase
  /-- The connections whose tasks were spawned, in order. -/
  inflight : List Nat
  /-- A worker of the runtime is polling the task of the connection. -/
  polled : Nat → Bool
  /-- The task of the connection is to be dropped when its poll ends, or in place of the next. -/
  aborted : Nat → Bool

/-- The daemon with its socket bound and its loop about to begin. -/
def Server.bound : Server where
  net := newNetwork
  shutdown := .channel false
  signal := .channel false
  signalTask := .installing
  loop := .external
  inflight := []
  polled _ := false
  aborted _ := false

/-- What a poll of the socket finds. -/
inductive Accept
  /-- No connection waits. -/
  | pending
  /-- A connection. -/
  | connected
  /-- An error, which is only logged. -/
  | failed

/-- What happens next. -/
inductive ServerEvent
  /-- A handle is given out or cloned. -/
  | cloneHandle
  /-- A handle is dropped. -/
  | dropHandle
  /-- `DaemonHandle::shutdown` on one of the handles. -/
  | shutdown
  /-- The signal task installs its handlers. -/
  | install (works : Bool)
  /-- A signal arrives. -/
  | signal
  /-- The accept loop goes on; the socket is looked at in the third arm only. -/
  | loop (accept : Accept)
  /-- A worker takes up a connection task. -/
  | poll (connection : Nat)
  /-- The poll is over, and the task waits. -/
  | park (connection : Nat)
  /-- A polled task reads a line and processes it up to the write of the reply. -/
  | line (connection : Nat) (text : String) (env : Env)
  /-- A polled task ends the write of a reply. -/
  | flush (connection : Nat)
  /-- A polled task ends by itself. -/
  | hangup (connection : Nat)

namespace Server

/-- `DaemonHandle::is_shutting_down`. -/
def isShuttingDown (server : Server) : Bool := server.shutdown.value

/-- The connection has a task. -/
def IsOpen (server : Server) (connection : Nat) : Prop :=
  (server.net.phases connection).isClosed = false

instance (server : Server) (connection : Nat) : Decidable (server.IsOpen connection) :=
  inferInstanceAs (Decidable ((server.net.phases connection).isClosed = false))

variable [Chrono] [SerdeJson]

/-- Something happens on a connection. -/
def perform (server : Server) (event : NetworkEvent) : Option NetworkEvent × Server :=
  (some event, { server with net := (network.step server.net event).2 })

/-- An abort only asks for the end of a task: it returns before the task is dropped. -/
def abort (server : Server) (connection : Nat) : Server :=
  { server with aborted := Function.update server.aborted connection true }

/-- The loop goes on after an arm whose channel was ready. -/
def checked (server : Server) (stop : Bool) : Server :=
  { server with loop := if stop then .aborting server.inflight else .external }

/-- The accept loop goes on. -/
def advance (server : Server) (accept : Accept) : Option NetworkEvent × Server :=
  match server.loop with
  | .external =>
      match server.shutdown.poll with
      | (.pending, _) => (none, { server with loop := .signalled })
      | (_, shutdown) => (none, { server with shutdown }.checked shutdown.value)
  | .signalled =>
      match server.signal.poll with
      | (.pending, _) => (none, { server with loop := .accepting })
      | (_, signal) => (none, { server with signal }.checked signal.value)
  | .accepting =>
      match accept with
      | .pending => (none, { server with loop := .external })
      | .failed => (none, { server with loop := .external })
      | .connected =>
          let connection := server.inflight.length
          { server with
            loop := .external
            inflight := server.inflight ++ [connection] }.perform (.accept connection)
  | .aborting [] => (none, { server with loop := .unlinking })
  | .aborting (connection :: rest) =>
      (none, { server with loop := .aborting rest }.abort connection)
  | .unlinking =>
      -- The receivers go with the frame of `run`.
      (none, { server with
        loop := .returned
        shutdown := server.shutdown.dropReceiver
        signal := server.signal.dropReceiver })
  | .returned => (none, server)

/-- What a polled task does. -/
def whilePolled (server : Server) (connection : Nat) (event : NetworkEvent) :
    Option NetworkEvent × Server :=
  if server.IsOpen connection ∧ server.polled connection then server.perform event
  else (none, server)

/-- A worker takes up a task: it polls it, or drops it where it is aborted. -/
def poll (server : Server) (connection : Nat) : Option NetworkEvent × Server :=
  if server.aborted connection ∧ server.polled connection = false then
    server.perform (.hangup connection)
  else (none, { server with polled := Function.update server.polled connection true })

/-- The poll of a task is over; the task is dropped where it is aborted. -/
def park (server : Server) (connection : Nat) : Option NetworkEvent × Server :=
  if server.polled connection then
    let parked := { server with polled := Function.update server.polled connection false }
    if server.aborted connection then parked.perform (.hangup connection) else (none, parked)
  else (none, server)

end Server

/-- The daemon as a machine which gives out what happens on its connections.  An event which is not
due changes nothing. -/
def server [Chrono] [SerdeJson] : Mealy Server ServerEvent (Option NetworkEvent) where
  step server
    | .cloneHandle => (none, { server with shutdown := server.shutdown.cloneSender })
    | .dropHandle =>
        (none,
          -- The daemon holds on to its own sender.
          if 1 < server.shutdown.senders then
            { server with shutdown := server.shutdown.dropSender }
          else server)
    | .shutdown =>
        (none,
          if 1 < server.shutdown.senders then { server with shutdown := server.shutdown.send true }
          else server)
    | .install works =>
        (none,
          if server.signalTask = .installing then
            if works then { server with signalTask := .waiting }
            else { server with signalTask := .ended, signal := server.signal.dropSender }
          else server)
    | .signal =>
        (none,
          if server.signalTask = .waiting then
            { server with
              signalTask := .ended
              signal := (server.signal.send true).dropSender }
          else server)
    | .loop accept => server.advance accept
    | .poll connection => server.poll connection
    | .park connection => server.park connection
    | .line connection text env => server.whilePolled connection (.line connection text env)
    | .flush connection => server.whilePolled connection (.flush connection)
    | .hangup connection => server.whilePolled connection (.hangup connection)

end TeamComm
