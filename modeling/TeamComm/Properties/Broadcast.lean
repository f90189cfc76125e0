import TeamComm.Mcp.Bridges
import TeamComm.Properties.InboxDelivery
import TeamComm.Properties.SessionIndex

/-!
# Messages without a recipient

The tool `post_message` posts a message without a recipient to the empty name, which should mean all
of the team.  To the daemon the empty name is one more inbox, and as no session has that name nobody
polls it.
-/

namespace TeamComm

open Json (Value)

/-- A call polls the messages of another session. -/
def PollsApart (session : String) (call : Call) : Prop :=
  ∃ other, other ≠ session ∧ PollsUnread other call

section Broadcast

variable [Chrono] {state : AppStateInner}

/-- A call is answered with the id of the message it posts. -/
def PostsAs (state : AppStateInner) (call : Call) (id : String) : Prop :=
  ∃ reply, (daemon.step state call).1 = .ok reply ∧ repliedId reply = some id

/-- A session can obtain a message by a poll of its own, whoever polls first. -/
def Obtains (state : AppStateInner) (session id : String) : Prop :=
  ∀ polls : List Call, (∀ poll ∈ polls, PollsApart session poll) →
    ∃ call, PollsUnread session call ∧
      id ∈ returnedIds (daemon.step (daemon.run state polls) call).1

/-- What a call posts reaches every registered session but the sender. -/
def ReachesTeam (state : AppStateInner) (call : Call) (sender : String) : Prop :=
  ∃ id, PostsAs state call id ∧ ∀ session, session ≠ sender →
    (daemon.step state call).2.sessions.containsKey session = true →
    Obtains (daemon.step state call).2 session id

/-- A list of a session returns messages of its inbox. -/
theorem returnedIds_subset {session : String} {call : Call}
    (distinct : (Mailbox.ids (mailbox session state)).Nodup) (lists : Lists session call) :
    returnedIds (daemon.step state call).1 ⊆ Mailbox.ids (mailbox session state) := by
  rw [returnedIds_list distinct lists]
  exact Mailbox.handed_subset _ _

/-- No session has the empty name. -/
theorem not_registered_empty {calls : List Call} (fresh : FreshIds calls) :
    (daemon.run newState calls).sessions.containsKey "" = false := by
  by_contra present
  obtain ⟨session, stored⟩ := HashMap.containsKey_iff.mp (Bool.eq_true_of_not_eq_false present)
  obtain ⟨env, -, named⟩ := sessionsMinted_run fresh _ _ stored
  have front : "" = "sess_" ++ env.uuid := named
  have chars := congrArg String.length front
  rw [String.length_append] at chars
  have longer : 5 ≤ ("sess_" : String).length := by decide
  change 0 = _ at chars
  omega

section Posted

variable {args : Value} {sent : MethodCall} {env : Env} {sender body : String}

/-- A message without a recipient is appended to the inbox of the empty name. -/
theorem step_postMessage {priority : Priority}
    (session : Mcp.requireStr args "session_id" = .ok sender)
    (text : Mcp.requireStr args "body" = .ok body) (everyone : Mcp.optStr args "to" = none)
    (known : parsePriority ((Mcp.optStr args "priority").getD "normal") = .ok priority)
    (sends : Mcp.Sends Mcp.postMessage args sent)
    (registered : state.sessions.containsKey sender = true) :
    daemon.step state (sent.call env) =
      (.ok (.object [("message_id", .string env.mintMessageId)]), { state with
        inbox := state.inbox.insert "" ((state.inbox.get "").getD [] ++ [{
          messageId := env.mintMessageId
          fromSession := sender
          toSession := ""
          subject := (Mcp.optStr args "topic").getD ""
          body, priority
          ts := env.now
          read := false }]) }) := by
  have read := Mcp.read_postMessage session text known sends
  rw [everyone] at read
  have step : daemon.step state (sent.call env) = _ := Request.step_of_read state read
  rw [step, Request.perform, if_pos registered]
  rfl

/-- A message in the inbox of the empty name is returned to no registered session. -/
theorem not_obtains {calls : List Call} (fresh : FreshIds calls) {session id : String}
    (registered : (daemon.run newState calls).sessions.containsKey session = true)
    (posted : id ∈ Mailbox.ids (mailbox "" (daemon.run newState calls))) :
    ¬Obtains (daemon.run newState calls) session id := by
  intro obtains
  obtain ⟨call, polls, returned⟩ := obtains [] fun poll member => absurd member List.not_mem_nil
  have ids := inboxIds_run fresh
  have inside := returnedIds_subset (ids.distinct session) ⟨polls.1, polls.2.1⟩ returned
  have named : session = "" := ids.apart inside posted
  rw [named, not_registered_empty fresh] at registered
  cases registered

/-- The id of a posted message is answered. -/
theorem postsAs_postMessage {priority : Priority}
    (session : Mcp.requireStr args "session_id" = .ok sender)
    (text : Mcp.requireStr args "body" = .ok body) (everyone : Mcp.optStr args "to" = none)
    (known : parsePriority ((Mcp.optStr args "priority").getD "normal") = .ok priority)
    (sends : Mcp.Sends Mcp.postMessage args sent)
    (registered : state.sessions.containsKey sender = true) {id : String} :
    PostsAs state (sent.call env) id ↔ id = env.mintMessageId := by
  have step : daemon.step state (sent.call env) = _ :=
    step_postMessage session text everyone known sends registered
  have named : repliedId (.object [("message_id", .string env.mintMessageId)]) =
      some env.mintMessageId := by
    simp [repliedId, Value.get_object, Value.string, Json.asStr]
  rw [PostsAs, step]
  constructor
  · rintro ⟨reply, answered, replied⟩
    obtain rfl := Except.ok.inj answered
    exact Option.some.inj (replied.symm.trans named)
  · rintro rfl
    exact ⟨_, rfl, named⟩

/-- A message which reaches the team was posted by the only session. -/
theorem alone_of_reachesTeam {calls : List Call} {priority : Priority}
    (session : Mcp.requireStr args "session_id" = .ok sender)
    (text : Mcp.requireStr args "body" = .ok body) (everyone : Mcp.optStr args "to" = none)
    (known : parsePriority ((Mcp.optStr args "priority").getD "normal") = .ok priority)
    (sends : Mcp.Sends Mcp.postMessage args sent) (fresh : FreshIds (calls ++ [sent.call env]))
    (registered : (daemon.run newState calls).sessions.containsKey sender = true)
    (reaches : ReachesTeam (daemon.run newState calls) (sent.call env) sender) {other : String}
    (present : (daemon.run newState calls).sessions.containsKey other = true) : other = sender := by
  by_contra different
  obtain ⟨id, posts, obtained⟩ := reaches
  obtain rfl := (postsAs_postMessage session text everyone known sends registered).mp posts
  have step : daemon.step (daemon.run newState calls) (sent.call env) = _ :=
    step_postMessage session text everyone known sends registered
  have after : daemon.run newState (calls ++ [sent.call env]) = _ :=
    (Mealy.run_snoc _ _ _ _).trans (congrArg Prod.snd step)
  have present_after : (daemon.run newState (calls ++ [sent.call env])).sessions.containsKey other =
      true := by
    rw [after]
    exact present
  have stored : env.mintMessageId ∈
      Mailbox.ids (mailbox "" (daemon.run newState (calls ++ [sent.call env]))) := by
    rw [after]
    simp [mailbox, Mailbox.ids]
  refine not_obtains fresh present_after stored ?_
  rw [Mealy.run_snoc] at present_after ⊢
  exact obtained other different present_after

/-- A message without a recipient reaches the team exactly when the sender is alone. -/
theorem reachesTeam_iff {calls : List Call} {priority : Priority}
    (session : Mcp.requireStr args "session_id" = .ok sender)
    (text : Mcp.requireStr args "body" = .ok body) (everyone : Mcp.optStr args "to" = none)
    (known : parsePriority ((Mcp.optStr args "priority").getD "normal") = .ok priority)
    (sends : Mcp.Sends Mcp.postMessage args sent) (fresh : FreshIds (calls ++ [sent.call env]))
    (registered : (daemon.run newState calls).sessions.containsKey sender = true) :
    ReachesTeam (daemon.run newState calls) (sent.call env) sender ↔
      ∀ other, (daemon.run newState calls).sessions.containsKey other = true →
        other = sender := by
  constructor
  · intro reaches other
    exact alone_of_reachesTeam session text everyone known sends fresh registered reaches
  · intro alone
    have posts := (@postsAs_postMessage _ (daemon.run newState calls) _ _ env _ _ _ session text
      everyone known sends registered env.mintMessageId).mpr rfl
    refine ⟨_, posts, fun other different present => ?_⟩
    have step : daemon.step (daemon.run newState calls) (sent.call env) = _ :=
      step_postMessage session text everyone known sends registered
    rw [step] at present
    exact absurd (alone other present) different

end Posted

end Broadcast

section Examples

attribute [local instance] Chrono.utc

/-- Two agents. -/
def twoAgents : List Call := [
  ⟨"session.register", .object [("pid", .u64 1)], .ofSeconds 0 "a"⟩,
  ⟨"session.register", .object [("pid", .u64 2)], .ofSeconds 1 "b"⟩]

/-- What the first agent has to say to everyone. -/
def announcement : Value :=
  .object [("session_id", .string "sess_a"), ("body", .string "rebase")]

/-- The call which says it. -/
def announced : MethodCall := ⟨"inbox.post", .object [
  ("from_session", .string "sess_a"), ("kind", .string "note"), ("priority", .string "normal"),
  ("body", .string "rebase"), ("to_session", .string "")]⟩

theorem sends_announcement : Mcp.Sends Mcp.postMessage announcement announced :=
  Mcp.sends_postMessage rfl rfl

theorem known_announcement :
    parsePriority ((Mcp.optStr announcement "priority").getD "normal") = .ok .normal := by
  decide

theorem reachesTeam_iff_alone :
    ReachesTeam (daemon.run newState (twoAgents.take 1)) (announced.call (.ofSeconds 2 "c"))
      "sess_a" := by
  have fresh : FreshIds (twoAgents.take 1 ++ [announced.call (.ofSeconds 2 "c")]) := by decide
  refine (reachesTeam_iff rfl rfl rfl known_announcement sends_announcement fresh rfl).mpr ?_
  intro other present
  obtain ⟨session, stored⟩ := HashMap.containsKey_iff.mp present
  by_contra different
  have nothing : (daemon.run newState (twoAgents.take 1)).sessions.get other = none :=
    HashMap.get_insert_of_ne _ _ different
  rw [nothing] at stored
  cases stored

/-- The second agent does not get to see the message. -/
theorem not_reachesTeam_twoAgents :
    ¬∀ (calls : List Call) (args : Value) (sent : MethodCall) (env : Env) (sender body : String)
      (priority : Priority), Mcp.requireStr args "session_id" = .ok sender →
      Mcp.requireStr args "body" = .ok body → Mcp.optStr args "to" = none →
      parsePriority ((Mcp.optStr args "priority").getD "normal") = .ok priority →
      Mcp.Sends Mcp.postMessage args sent → FreshIds (calls ++ [sent.call env]) →
      (daemon.run newState calls).sessions.containsKey sender = true →
      ReachesTeam (daemon.run newState calls) (sent.call env) sender := by
  intro reaches
  have fresh : FreshIds (twoAgents ++ [announced.call (.ofSeconds 2 "c")]) := by decide
  have reached := reaches twoAgents announcement announced _ "sess_a" "rebase" .normal rfl rfl rfl
    known_announcement sends_announcement fresh rfl
  have same : "sess_b" = "sess_a" := alone_of_reachesTeam rfl rfl rfl known_announcement
    sends_announcement fresh rfl reached rfl
  revert same
  decide

end Examples

end TeamComm
