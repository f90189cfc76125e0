import TeamComm.Client.Call
import TeamComm.Daemon.Network

/-!
# A client and its connection

A client calls over one stream; the task of its connection reads the requests and writes the
replies.  The two go on independently of each other, either of them may fail at any character, and
the daemon serves other connections meanwhile.
-/

namespace TeamComm

open Json (Value)

/-- What a client is doing. -/
inductive ClientPhase
  /-- It holds its stream, and no call is running. -/
  | idle
  /-- It has written the request of a call, and holds the stream until it has read the response. -/
  | waiting (call : MethodCall)
  /-- It has lost its stream. -/
  | lost

/-- The client has lost its stream. -/
def ClientPhase.isLost : ClientPhase → Bool
  | lost => true
  | idle | waiting _ => false

/-- A client, the task of its connection, and the stream between them. -/
structure Link where
  /-- The state of the daemon. -/
  state : AppStateInner
  /-- What the client is doing. -/
  client : ClientPhase
  /-- Where the task of the connection stands. -/
  task : Phase
  /-- What the client has written and the task has not read. -/
  requests : List Char
  /-- What the task has written and the client has not read. -/
  replies : List Char
  /-- The lines which the task has processed since the last call began. -/
  passes : List LineStep

/-- A fresh connection. -/
def Link.connected (state : AppStateInner) : Link where
  state
  client := .idle
  task := .reading
  requests := []
  replies := []
  passes := []

/-- What happens next. -/
inductive LinkEvent
  /-- The client begins a call; its write may fail behind a number of characters. -/
  | call (call : MethodCall) (fault : Option Nat)
  /-- The client reads a line; its buffer takes in some characters behind it. -/
  | receive (buffered : Nat)
  /-- The read of the client fails. -/
  | readFails
  /-- The task reads a line and processes it. -/
  | process (env : Env)
  /-- The task writes its reply; the write may fail behind a number of characters. -/
  | flush (fault : Option Nat)
  /-- The task ends, whatever it was doing. -/
  | hangup
  /-- The call of another connection is dispatched. -/
  | meanwhile (call : Call)

/-- A call which has returned. -/
structure Finished where
  /-- The call. -/
  call : MethodCall
  /-- What it returns. -/
  outcome : Except ClientError Value
  /-- The lines which the task has processed since the call began. -/
  passes : List LineStep

/-- The part of a text which is written, and whether the write fails. -/
def written (text : List Char) : Option Nat → List Char
  | none => text
  | some fault => text.take fault

theorem written_prefix (text : List Char) (fault : Option Nat) : written text fault <+: text := by
  cases fault with
  | none => exact List.prefix_refl text
  | some sent => exact List.take_prefix sent text

section Link

variable [SerdeJson]

/-- The line of a request. -/
def requestLine (call : MethodCall) : List Char :=
  (SerdeJson.toString (Client.request call)).toList ++ ['\n']

/-- The line of an envelope. -/
def replyLine (envelope : Value) : List Char := (SerdeJson.toString envelope).toList ++ ['\n']

/-- The client begins a call. -/
def Link.begin (link : Link) (call : MethodCall) (fault : Option Nat) : Option Finished × Link :=
  match link.client with
  | .waiting _ => (none, link)
  | .lost => (some ⟨call, .error .noStream, []⟩, link)
  | .idle =>
      let requests := link.requests ++ written (requestLine call) fault
      match fault with
      | none => (none, { link with client := .waiting call, requests, passes := [] })
      | some _ =>
          (some ⟨call, .error .write, []⟩, { link with client := .lost, requests, passes := [] })

theorem Link.begin_waiting {link : Link} {running call : MethodCall}
    (client : link.client = .waiting running) (fault : Option Nat) :
    link.begin call fault = (none, link) := by
  simp only [Link.begin, client]

theorem Link.begin_lost {link : Link} {call : MethodCall} (client : link.client = .lost)
    (fault : Option Nat) : link.begin call fault = (some ⟨call, .error .noStream, []⟩, link) := by
  simp only [Link.begin, client]

/-- A client which waits reads a line as soon as one, or the end of the stream, is there. -/
def Link.receive (link : Link) (buffered : Nat) : Option Finished × Link :=
  match link.client with
  | .waiting call =>
      if '\n' ∈ link.replies ∨ link.task.isClosed then
        let (line, rest) := Lines.readLine link.replies
        if line = [] then
          (some ⟨call, .error .closed, link.passes⟩, { link with client := .lost })
        else
          -- What the buffer has taken in is thrown away with it.
          (some ⟨call, Client.readLine (String.ofList line), link.passes⟩,
            { link with client := .idle, replies := rest.drop buffered })
      else (none, link)
  | _ => (none, link)

/-- The task reads a line as soon as one, or the end of the stream, is there, and processes it. -/
def Link.process [Chrono] (link : Link) (env : Env) : Link :=
  match link.task with
  | .reading =>
      if '\n' ∈ link.requests ∨ link.client.isLost then
        let (line, rest) := Lines.readLine link.requests
        if line = [] then { link with task := .closed }
        else
          let pass := connection.transition link.state (String.ofList line, env)
          { link with
            state := pass.after
            task := pass.output.phase pass.event
            requests := rest
            passes := link.passes ++ [pass] }
      else link
  | _ => link

/-- The task writes its reply. -/
def Link.flush (link : Link) (fault : Option Nat) : Link :=
  match link.task with
  | .writing reply =>
      { link with
        task := if fault.isNone then .reading else .closed
        replies := link.replies ++ written (replyLine reply.envelope) fault }
  | _ => link

theorem Link.process_client [Chrono] (link : Link) (env : Env) :
    (link.process env).client = link.client := by
  unfold Link.process
  split
  · split_ifs
    · dsimp only
      split_ifs <;> rfl
    · rfl
  · rfl

theorem Link.flush_client (link : Link) (fault : Option Nat) :
    (link.flush fault).client = link.client := by
  unfold Link.flush
  split <;> rfl

/-- The link as a machine which gives out the calls that return.  An event which is not due changes
nothing. -/
def link [Chrono] : Mealy Link LinkEvent (Option Finished) where
  step state
    | .call call fault => state.begin call fault
    | .receive buffered => state.receive buffered
    | .readFails =>
        match state.client with
        | .waiting call =>
            (some ⟨call, .error .read, state.passes⟩, { state with client := .lost })
        | _ => (none, state)
    | .process env => (none, state.process env)
    | .flush fault => (none, state.flush fault)
    | .hangup => (none, { state with task := .closed })
    | .meanwhile call => (none, { state with state := (daemon.step state.state call).2 })

/-- How a call returns: without a stream, giving the stream up, or with what it makes of a line. -/
theorem returned_cases [Chrono] {state : Link} {event : LinkEvent} {finished : Finished}
    (returned : (link.step state event).1 = some finished) :
    finished.outcome = .error .noStream ∨
      ((link.step state event).2.client = .lost ∧
        ∃ error, finished.outcome = .error error ∧ error ∈ [ClientError.write, .read, .closed]) ∨
      ∃ buffered line, event = .receive buffered ∧ finished.outcome = Client.readLine line := by
  cases event with
  | call call fault =>
      change (state.begin call fault).1 = _ at returned
      change _ ∨ ((state.begin call fault).2.client = .lost ∧ _) ∨ _
      unfold Link.begin at returned ⊢
      cases client : state.client with
      | waiting running => simp [client] at returned
      | lost =>
          rw [client] at returned
          exact .inl (congrArg Finished.outcome (Option.some.inj returned)).symm
      | idle =>
          rw [client] at returned
          cases fault with
          | none => cases returned
          | some sent =>
              obtain rfl := Option.some.inj returned
              exact .inr (.inl ⟨rfl, .write, rfl, List.mem_cons_self⟩)
  | receive buffered =>
      change (state.receive buffered).1 = _ at returned
      change _ ∨ ((state.receive buffered).2.client = .lost ∧ _) ∨ _
      unfold Link.receive at returned ⊢
      cases client : state.client with
      | waiting running =>
          rw [client] at returned
          dsimp only at returned ⊢
          split_ifs at returned ⊢
          · obtain rfl := Option.some.inj returned
            exact .inr (.inl ⟨rfl, .closed, rfl, by simp⟩)
          · obtain rfl := Option.some.inj returned
            exact .inr (.inr ⟨buffered, _, rfl, rfl⟩)
      | idle => simp [client] at returned
      | lost => simp [client] at returned
  | readFails =>
      simp only [link] at returned ⊢
      cases client : state.client with
      | waiting running =>
          rw [client] at returned
          obtain rfl := Option.some.inj returned
          exact .inr (.inl ⟨rfl, .read, rfl, by simp⟩)
      | idle => simp [client] at returned
      | lost => simp [client] at returned
  | process env => cases returned
  | flush fault => cases returned
  | hangup => cases returned
  | meanwhile call => cases returned

end Link

end TeamComm
