import TeamComm.Daemon.Server
import TeamComm.Properties.ConnectionLoop

/-!
# Conversations

However the connection tasks take turns, there is one order of all lines in which one loop alone,
reading them one after the other, leaves the state behind and writes the replies.  A connection is
written the replies to its own lines in that order, the last of them possibly lost.
-/

namespace TeamComm

/-- One step of the connections. -/
abbrev NetworkStep := Mealy.Transition Network NetworkEvent (Option (String × Env))

/-- A line with the connection it was read from. -/
abbrev TaggedLine := Nat × String × Env

/-- The reply to a line. -/
def LineOutcome.replied (line : String × Env) : LineOutcome → Option Reply
  | .reply envelope => some ⟨line, envelope⟩
  | .silent => none
  | .dies => none

/-- The reply which a connection is writing. -/
def Phase.owed : Phase → List Reply
  | .writing reply => [reply]
  | .closed => []
  | .reading => []

theorem owed_phase (line : String × Env) (outcome : LineOutcome) :
    (outcome.phase line).owed = (outcome.replied line).toList := by
  cases outcome <;> rfl

/-- The line which a step processes. -/
def taggedLine (step : NetworkStep) : Option TaggedLine :=
  match step.event, step.output with
  | .line connection _ _, some line => some (connection, line)
  | _, _ => none

/-- The lines which a run processes, in order. -/
def taggedLines (steps : List NetworkStep) : List TaggedLine := steps.filterMap taggedLine

/-- The reply whose write a step ends on a connection. -/
def flushedOn (connection : Nat) (step : NetworkStep) : Option Reply :=
  match step.event with
  | .flush other =>
      if other = connection then
        match step.before.phases connection with
        | .writing reply => some reply
        | _ => none
      else none
  | _ => none

/-- The replies which were written on a connection, in order. -/
def writtenOn (connection : Nat) (steps : List NetworkStep) : List Reply :=
  steps.filterMap (flushedOn connection)

/-- The connection which an event accepts. -/
def NetworkEvent.accepted : NetworkEvent → Option Nat
  | .accept connection => some connection
  | _ => none

/-- One step of the daemon. -/
abbrev ServerTransition := Mealy.Transition Server ServerEvent (Option NetworkEvent)

/-- What happened on the connections. -/
def happened (steps : List ServerTransition) : List NetworkEvent :=
  steps.filterMap Mealy.Transition.output

/-- No two connections go by one number. -/
def AcceptsOnce (events : List NetworkEvent) : Prop :=
  (events.filterMap NetworkEvent.accepted).Nodup

theorem AcceptsOnce.front {front back : List NetworkEvent} (once : AcceptsOnce (front ++ back)) :
    AcceptsOnce front := by
  unfold AcceptsOnce at once
  rw [List.filterMap_append] at once
  exact once.of_append_left

theorem owed_length (phase : Phase) : phase.owed.length ≤ 1 := by
  cases phase with
  | writing reply => exact Nat.le_refl 1
  | closed => exact Nat.zero_le 1
  | reading => exact Nat.zero_le 1

section Network

variable [Chrono] [SerdeJson]

/-- One loop which reads the lines of all connections. -/
def loneLoop : Mealy AppStateInner TaggedLine LineOutcome where
  step state tagged := processLine tagged.2.1 tagged.2.2 state

/-- The reply of the lone loop to a line of a connection. -/
def replyOn (connection : Nat) (pass : Mealy.Transition AppStateInner TaggedLine LineOutcome) :
    Option Reply :=
  if pass.event.1 = connection then pass.output.replied pass.event.2 else none

/-- The replies of the lone loop to the lines of a connection. -/
def repliesTo (connection : Nat) (history : List TaggedLine) : List Reply :=
  (loneLoop.trace newState history).filterMap (replyOn connection)

/-! ## One step -/

theorem repliesTo_snoc (connection : Nat) (history : List TaggedLine) (tagged : TaggedLine) :
    repliesTo connection (history ++ [tagged]) = repliesTo connection history ++
      (replyOn connection
        (loneLoop.transition (loneLoop.run newState history) tagged)).toList :=
  Mealy.filterMap_trace_snoc ..

/-- What the conversation on a connection looks like after a run. -/
structure Conversation (connection : Nat) (events : List NetworkEvent) (history : List TaggedLine)
    (written : List Reply) (net : Network) : Prop where
  /-- The state is what the lone loop leaves behind. -/
  state : net.state = loneLoop.run newState history
  /-- Behind what was written is what is being written, or what was lost at the end. -/
  replies : ∃ owed, repliesTo connection history = written ++ owed ∧ owed.length ≤ 1 ∧
    ((net.phases connection).isClosed = false → owed = (net.phases connection).owed)
  /-- Nothing happens before the connection is accepted. -/
  untouched : connection ∉ events.filterMap NetworkEvent.accepted →
    net.phases connection = .closed ∧ repliesTo connection history = []

section Step

variable {connection : Nat} {events : List NetworkEvent} {history : List TaggedLine}
  {written : List Reply} {net after : Network}

theorem conversation_new (connection : Nat) : Conversation connection [] [] [] newNetwork where
  state := rfl
  replies := ⟨[], rfl, Nat.zero_le 1, fun _ => rfl⟩
  untouched _ := ⟨rfl, rfl⟩

/-- A conversation does not notice what leaves its state and its connection alone, or ends it. -/
theorem Conversation.stays (conversation : Conversation connection events history written net)
    (event : NetworkEvent) (state : after.state = net.state)
    (phase : after.phases connection = net.phases connection ∨ after.phases connection = .closed) :
    Conversation connection (events ++ [event]) history written after where
  state := state.trans conversation.state
  replies := by
    obtain ⟨owed, replies, short, being_written⟩ := conversation.replies
    refine ⟨owed, replies, short, fun is_open => ?_⟩
    rcases phase with same | closed
    · rw [same] at is_open ⊢
      exact being_written is_open
    · rw [closed] at is_open
      cases is_open
  untouched absent := by
    rw [List.filterMap_append, List.mem_append, not_or] at absent
    obtain ⟨closed, silent⟩ := conversation.untouched absent.1
    rw [closed, or_self] at phase
    exact ⟨phase, silent⟩

/-- A connection which is accepted for the first time has no conversation yet. -/
theorem Conversation.accepts (conversation : Conversation connection events history written net)
    (first : connection ∉ events.filterMap NetworkEvent.accepted) :
    Conversation connection (events ++ [.accept connection]) history written
      (net.enter connection .reading) where
  state := conversation.state
  replies := by
    obtain ⟨owed, replies, -, -⟩ := conversation.replies
    rw [(conversation.untouched first).2] at replies ⊢
    obtain ⟨rfl, rfl⟩ := List.append_eq_nil_iff.mp replies.symm
    exact ⟨[], rfl, Nat.zero_le 1, fun _ => by rw [Network.enter_self]; rfl⟩
  untouched absent := by
    rw [List.filterMap_append] at absent
    exact absurd (List.mem_append_right _ List.mem_cons_self) absent

/-- A line of another connection changes the state only. -/
theorem Conversation.passes (conversation : Conversation connection events history written net)
    {other : Nat} (different : other ≠ connection) (text : String) (env : Env) (phase : Phase) :
    Conversation connection (events ++ [.line other text env]) (history ++ [(other, text, env)])
      written ({ net with state := (processLine text env net.state).2 }.enter other phase) := by
  have silent : repliesTo connection (history ++ [(other, text, env)]) =
      repliesTo connection history := by
    have unaddressed : replyOn connection (loneLoop.transition (loneLoop.run newState history)
        (other, text, env)) = none := if_neg different
    rw [repliesTo_snoc, unaddressed, Option.toList_none, List.append_nil]
  have same : ({ net with state := (processLine text env net.state).2 }.enter other phase).phases
      connection = net.phases connection := Network.enter_of_ne _ _ different.symm
  constructor
  · rw [Mealy.run_snoc, ← conversation.state]
    rfl
  · rw [silent, same]
    exact conversation.replies
  · intro absent
    rw [List.filterMap_append, List.mem_append, not_or] at absent
    rw [silent, same]
    exact conversation.untouched absent.1

/-- A line of the connection has its reply written next. -/
theorem Conversation.reads (conversation : Conversation connection events history written net)
    (reading : net.phases connection = .reading) (text : String) (env : Env) :
    Conversation connection (events ++ [.line connection text env])
      (history ++ [(connection, text, env)]) written
      ({ net with state := (processLine text env net.state).2 }.enter connection
        ((processLine text env net.state).1.phase (text, env))) := by
  obtain ⟨owed, replies, -, being_written⟩ := conversation.replies
  rw [reading] at being_written
  obtain rfl : owed = [] := being_written rfl
  have answered : repliesTo connection (history ++ [(connection, text, env)]) =
      written ++ ((processLine text env net.state).1.phase (text, env)).owed := by
    have addressed : replyOn connection (loneLoop.transition (loneLoop.run newState history)
        (connection, text, env)) = _ := if_pos rfl
    rw [repliesTo_snoc, replies, List.append_nil, addressed, owed_phase, conversation.state]
    rfl
  have entered : ({ net with state := (processLine text env net.state).2 }.enter connection
      ((processLine text env net.state).1.phase (text, env))).phases connection =
        (processLine text env net.state).1.phase (text, env) := Network.enter_self ..
  constructor
  · rw [Mealy.run_snoc, ← conversation.state]
    rfl
  · exact ⟨_, answered, owed_length _, fun _ => by rw [entered]⟩
  · intro absent
    rw [List.filterMap_append, List.mem_append, not_or] at absent
    rw [(conversation.untouched absent.1).1] at reading
    cases reading

/-- A reply which is written is what the connection owed. -/
theorem Conversation.flushes (conversation : Conversation connection events history written net)
    {reply : Reply} (writing : net.phases connection = .writing reply) :
    Conversation connection (events ++ [.flush connection]) history (written ++ [reply])
      ({ net with written := net.written ++ [reply] }.enter connection .reading) := by
  obtain ⟨owed, replies, -, being_written⟩ := conversation.replies
  rw [writing] at being_written
  obtain rfl : owed = [reply] := being_written rfl
  constructor
  · exact conversation.state
  · refine ⟨[], by rw [replies, List.append_nil], Nat.zero_le 1, fun _ => ?_⟩
    rw [Network.enter_self]
    rfl
  · intro absent
    rw [List.filterMap_append, List.mem_append, not_or] at absent
    rw [(conversation.untouched absent.1).1] at writing
    cases writing

/-- Whatever happens, the conversation goes on as that of the lone loop. -/
theorem Conversation.step (conversation : Conversation connection events history written net)
    (event : NetworkEvent) (once : AcceptsOnce (events ++ [event])) :
    Conversation connection (events ++ [event])
      (history ++ (taggedLine (network.transition net event)).toList)
      (written ++ (flushedOn connection (network.transition net event)).toList)
      (network.step net event).2 := by
  cases event with
  | accept other =>
      have quiet : taggedLine (network.transition net (.accept other)) = none := rfl
      have kept : flushedOn connection (network.transition net (.accept other)) = none := rfl
      rw [quiet, kept, Option.toList_none, Option.toList_none, List.append_nil, List.append_nil]
      by_cases closed : net.phases other = .closed
      · rw [Network.step_accept closed]
        by_cases same : other = connection
        · subst same
          unfold AcceptsOnce at once
          rw [List.filterMap_append] at once
          exact conversation.accepts fun again =>
            List.disjoint_of_nodup_append once again List.mem_cons_self
        · exact conversation.stays _ rfl (.inl (Network.enter_of_ne _ _ (Ne.symm same)))
      · rw [Network.step_accept_open closed]
        exact conversation.stays _ rfl (.inl rfl)
  | line other text env =>
      have kept : flushedOn connection (network.transition net (.line other text env)) = none := rfl
      rw [kept, Option.toList_none, List.append_nil]
      by_cases reading : net.phases other = .reading
      · have line : taggedLine (network.transition net (.line other text env)) =
            some (other, text, env) := by
          simp only [taggedLine, Mealy.transition, Network.step_line reading]
        rw [line, Network.step_line reading, Option.toList_some]
        by_cases same : other = connection
        · subst same
          exact conversation.reads reading text env
        · exact conversation.passes same text env _
      · have quiet : taggedLine (network.transition net (.line other text env)) = none := by
          simp only [taggedLine, Mealy.transition, Network.step_line_busy reading]
        rw [quiet, Network.step_line_busy reading, Option.toList_none, List.append_nil]
        exact conversation.stays _ rfl (.inl rfl)
  | flush other =>
      have quiet : taggedLine (network.transition net (.flush other)) = none := rfl
      rw [quiet, Option.toList_none, List.append_nil]
      by_cases same : other = connection
      · subst same
        cases phase : net.phases other with
        | writing reply =>
            have flushed : flushedOn other (network.transition net (.flush other)) =
                some reply := by
              simp only [flushedOn, Mealy.transition, if_pos, phase]
            rw [flushed, Network.step_flush phase]
            exact conversation.flushes phase
        | closed | reading =>
            have kept : flushedOn other (network.transition net (.flush other)) = none := by
              simp only [flushedOn, Mealy.transition, if_pos, phase]
            rw [kept, Network.step_flush_idle (by simp [phase]), Option.toList_none,
              List.append_nil]
            exact conversation.stays _ rfl (.inl rfl)
      · have kept : flushedOn connection (network.transition net (.flush other)) = none :=
          if_neg same
        rw [kept, Option.toList_none, List.append_nil]
        cases phase : net.phases other with
        | writing reply =>
            rw [Network.step_flush phase]
            exact conversation.stays _ rfl (.inl (Network.enter_of_ne _ _ (Ne.symm same)))
        | closed | reading =>
            rw [Network.step_flush_idle (by simp [phase])]
            exact conversation.stays _ rfl (.inl rfl)
  | hangup other =>
      have quiet : taggedLine (network.transition net (.hangup other)) = none := rfl
      have kept : flushedOn connection (network.transition net (.hangup other)) = none := rfl
      rw [quiet, kept, Option.toList_none, Option.toList_none, List.append_nil, List.append_nil]
      refine conversation.stays _ rfl ?_
      by_cases same : other = connection
      · exact .inr (same ▸ Network.enter_self net other .closed)
      · exact .inl (Network.enter_of_ne _ _ (Ne.symm same))
  | shutdown =>
      have quiet : taggedLine (network.transition net .shutdown) = none := rfl
      have kept : flushedOn connection (network.transition net .shutdown) = none := rfl
      rw [quiet, kept, Option.toList_none, Option.toList_none, List.append_nil, List.append_nil]
      exact conversation.stays _ rfl (.inr rfl)

end Step

/-! ## Runs -/

/-- The conversation on a connection throughout a run. -/
theorem conversation_run {events : List NetworkEvent} (once : AcceptsOnce events)
    (connection : Nat) :
    Conversation connection events (taggedLines (network.trace newNetwork events))
      (writtenOn connection (network.trace newNetwork events))
      (network.run newNetwork events) := by
  induction events using List.reverseRecOn with
  | nil => exact conversation_new connection
  | append_singleton events event ih =>
      have before := ih once.front
      rw [taggedLines, writtenOn, Mealy.filterMap_trace_snoc, Mealy.filterMap_trace_snoc,
        Mealy.run_snoc]
      exact before.step event once

end Network

section Server

variable [Chrono] [SerdeJson]

namespace Server

/-- What a step gives out is what happened to the connections, and a connection is accepted under
the next number. -/
structure Tells (before : Server) (result : Option NetworkEvent × Server) : Prop where
  /-- The connections go through what was given out. -/
  net : result.2.net = match result.1 with
    | some event => (network.step before.net event).2
    | none => before.net
  /-- The tasks which were spawned are those whose connections were accepted. -/
  inflight : result.2.inflight =
    before.inflight ++ (result.1.bind NetworkEvent.accepted).toList
  /-- The tasks are numbered in their order. -/
  next : ∀ connection, result.1 = some (.accept connection) → connection = before.inflight.length

variable {before changed : Server}

theorem Tells.of_none (net : changed.net = before.net)
    (inflight : changed.inflight = before.inflight) :
    Tells before (none, changed) where
  net := net
  inflight := by rw [inflight]; exact (List.append_nil _).symm
  next := nofun

theorem Tells.of_perform {event : NetworkEvent} (net : changed.net = before.net)
    (inflight : changed.inflight = before.inflight) (quiet : event.accepted = none) :
    Tells before (changed.perform event) where
  net := by
    change (network.step changed.net event).2 = _
    rw [net]
    rfl
  inflight := by
    change changed.inflight = before.inflight ++ event.accepted.toList
    rw [inflight, quiet, Option.toList_none, List.append_nil]
  next := by
    rintro connection same
    obtain rfl : event = .accept connection := Option.some.inj same
    cases quiet

theorem tells_advance (server : Server) (accept : Accept) :
    Tells server (server.advance accept) := by
  unfold advance
  split
  · split
    · exact .of_none rfl rfl
    · exact .of_none rfl rfl
  · split
    · exact .of_none rfl rfl
    · exact .of_none rfl rfl
  · cases accept with
    | pending => exact .of_none rfl rfl
    | failed => exact .of_none rfl rfl
    | connected => exact ⟨rfl, rfl, by rintro connection ⟨⟩; rfl⟩
  · exact .of_none rfl rfl
  · exact .of_none rfl rfl
  · exact .of_none rfl rfl
  · exact .of_none rfl rfl

theorem tells_whilePolled (server : Server) (connection : Nat) {event : NetworkEvent}
    (quiet : event.accepted = none) : Tells server (server.whilePolled connection event) := by
  unfold whilePolled
  split_ifs
  · exact .of_perform rfl rfl quiet
  · exact .of_none rfl rfl

theorem tells_poll (server : Server) (connection : Nat) :
    Tells server (server.poll connection) := by
  unfold poll
  split_ifs
  · exact .of_perform rfl rfl rfl
  · exact .of_none rfl rfl

theorem tells_park (server : Server) (connection : Nat) :
    Tells server (server.park connection) := by
  unfold park
  dsimp only
  split_ifs
  · exact .of_perform rfl rfl rfl
  · exact .of_none rfl rfl
  · exact .of_none rfl rfl

end Server

theorem server_step_tells (before : Server) (event : ServerEvent) :
    Server.Tells before (server.step before event) := by
  cases event with
  | loop accept => exact Server.tells_advance before accept
  | poll connection => exact Server.tells_poll before connection
  | park connection => exact Server.tells_park before connection
  | line connection text env => exact Server.tells_whilePolled before connection rfl
  | flush connection => exact Server.tells_whilePolled before connection rfl
  | hangup connection => exact Server.tells_whilePolled before connection rfl
  | cloneHandle => exact .of_none rfl rfl
  | dropHandle | shutdown | signal =>
      simp only [server]
      split_ifs <;> exact .of_none rfl rfl
  | install works =>
      simp only [server]
      split_ifs <;> exact .of_none rfl rfl

/-- The connections of the daemon are a run of their own. -/
theorem server_run_net (events : List ServerEvent) :
    (server.run .bound events).net =
      network.run newNetwork (happened (server.trace .bound events)) := by
  change _ = network.run (Server.net .bound) _
  refine (Mealy.run_stuttering ?_ ?_).symm
  · intro step member silent
    obtain ⟨front, event, back, rfl, rfl⟩ := Mealy.mem_trace.mp member
    have told := (server_step_tells (server.run .bound front) event).net
    rw [show (server.step (server.run .bound front) event).1 = none from silent] at told
    exact told
  · intro step member happening said
    obtain ⟨front, event, back, rfl, rfl⟩ := Mealy.mem_trace.mp member
    have told := (server_step_tells (server.run .bound front) event).net
    rw [show (server.step (server.run .bound front) event).1 = some happening from said] at told
    exact told.symm

/-- The tasks which were spawned are those of the connections which were accepted, numbered from
zero. -/
theorem server_run_inflight (events : List ServerEvent) :
    (happened (server.trace .bound events)).filterMap NetworkEvent.accepted =
        (server.run .bound events).inflight ∧
      (server.run .bound events).inflight =
        List.range (server.run .bound events).inflight.length := by
  induction events using List.reverseRecOn with
  | nil => exact ⟨rfl, rfl⟩
  | append_singleton events event ih =>
      obtain ⟨accepted, numbered⟩ := ih
      have told := server_step_tells (server.run .bound events) event
      rw [happened, Mealy.filterMap_trace_snoc, Mealy.run_snoc, List.filterMap_append,
        ← happened, accepted, told.inflight]
      have output : (Mealy.Transition.output
          (server.transition (server.run .bound events) event)) =
            (server.step (server.run .bound events) event).1 := rfl
      rw [output]
      cases said : (server.step (server.run .bound events) event).1 with
      | none => simpa using numbered
      | some happening =>
          cases happening with
          | accept connection =>
              obtain rfl := told.next connection said
              simp [NetworkEvent.accepted, List.range_succ, ← numbered]
          | line | flush | hangup | shutdown => simpa [NetworkEvent.accepted] using numbered

theorem server_acceptsOnce (events : List ServerEvent) :
    AcceptsOnce (happened (server.trace .bound events)) := by
  obtain ⟨accepted, numbered⟩ := server_run_inflight events
  rw [AcceptsOnce, accepted, numbered]
  exact List.nodup_range

/-- The lines which the daemon has processed, in order. -/
def linesProcessed (events : List ServerEvent) : List TaggedLine :=
  taggedLines (network.trace newNetwork (happened (server.trace .bound events)))

/-- The replies which the daemon has written on a connection, in order. -/
def answered (connection : Nat) (events : List ServerEvent) : List Reply :=
  writtenOn connection (network.trace newNetwork (happened (server.trace .bound events)))

/-- However the tasks take turns, the daemon is where one loop would be which reads the same lines
alone, and each connection has been written the replies of that loop in order, short of the last at
most. -/
theorem server_linearizable (events : List ServerEvent) :
    (server.run .bound events).net.state = loneLoop.run newState (linesProcessed events) ∧
      ∀ connection, ∃ owed,
        repliesTo connection (linesProcessed events) = answered connection events ++ owed ∧
        owed.length ≤ 1 ∧
        ((server.run .bound events).IsOpen connection →
          owed = ((server.run .bound events).net.phases connection).owed) := by
  have conversation := conversation_run (server_acceptsOnce events)
  rw [← server_run_net] at conversation
  exact ⟨(conversation 0).state, fun connection => (conversation connection).replies⟩

end Server

section Answered

attribute [local instance] Chrono.utc compactJson

/-- Two connections ask for the sessions; the reply to the second is still being written. -/
def answeredEvents : List ServerEvent :=
  let line := "\x7b\"jsonrpc\":\"2.0\",\"id\":1,\"method\":\"session.list\",\"params\":null\x7d\n"
  [.install true, .loop .pending, .loop .pending, .loop .connected, .loop .pending, .loop .pending,
    .loop .connected, .poll 0, .poll 1, .line 1 line (.ofSeconds 0 "a"),
    .line 0 line (.ofSeconds 1 "b"), .flush 0]

theorem server_linearizable_answeredEvents :
    (answered 0 answeredEvents).length = 1 ∧ (answered 1 answeredEvents).length = 0 ∧
      ∀ connection, ∃ owed, repliesTo connection (linesProcessed answeredEvents) =
        answered connection answeredEvents ++ owed ∧ owed.length ≤ 1 := by
  refine ⟨by decide +kernel, by decide +kernel, fun connection => ?_⟩
  obtain ⟨owed, replies, short, -⟩ := (server_linearizable answeredEvents).2 connection
  exact ⟨owed, replies, short⟩

end Answered

end TeamComm
