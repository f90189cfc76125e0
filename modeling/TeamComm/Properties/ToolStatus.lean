import TeamComm.Mcp.Bridges

/-!
# Status and focus through the tools

`set_status` and `announce_focus` nest what they publish one level deeper than the daemon looks, so
either of them publishes an idle session without a focus.  Such a call has the effect it should have
only when it asks for just that, of a session which has published nothing else.
-/

namespace TeamComm

open Json (Value)

/-- The name under which a status is published. -/
def AgentStatus.name : AgentStatus → String
  | .idle => "idle"
  | .working => "working"
  | .blocked => "blocked"
  | .done => "done"
  | .stuck => "stuck"

theorem AgentStatus.toValue_eq (status : AgentStatus) : status.toValue = .string status.name := by
  cases status <;> rfl

theorem AgentStatus.name_inj {left right : AgentStatus} :
    left.name = right.name ↔ left = right := by
  cases left <;> cases right <;> decide

/-- The fields of a live state which say where its session works. -/
def placeFields : List String := ["focus_file", "focus_branch", "worktree"]

section Status

variable [Chrono] {state : AppStateInner} {sessionId : String}

/-- A call asks for the live state of a session. -/
def AsksState (sessionId : String) (call : Call) : Prop :=
  call.method = "state.get" ∧ getStr call.params "session_id" = some sessionId

/-- `state.get` tells a text in a field of the live state of a session. -/
def Tells (state : AppStateInner) (sessionId field text : String) : Prop :=
  ∀ call, AsksState sessionId call →
    ∃ reply, (daemon.step state call).1 = .ok reply ∧ reply.get field = some (.string text)

theorem tells_iff {field text : String} : Tells state sessionId field text ↔
    ∃ live, state.liveState.get sessionId = some live ∧
      live.toValue.get field = some (.string text) := by
  have read {call : Call} (asks : AsksState sessionId call) :
      Request.read call.method call.params = .ok (.stateGet sessionId) := by
    rw [asks.1, Request.read, requiredStr_eq_ok.mpr asks.2]
    rfl
  constructor
  · intro tells
    have asks : AsksState sessionId ⟨"state.get", .object [("session_id", .string sessionId)],
        ⟨⟨0, by decide, by decide⟩, "", .stored⟩⟩ := by
      refine ⟨rfl, ?_⟩
      simp [getStr, Value.get_object]
    obtain ⟨reply, answered, found⟩ := tells _ asks
    rw [Request.step_of_read state (read asks), Request.perform] at answered
    cases stored : state.liveState.get sessionId with
    | none =>
        rw [stored] at answered
        cases answered
    | some live =>
        rw [stored] at answered
        obtain rfl := Except.ok.inj answered
        exact ⟨live, rfl, found⟩
  · rintro ⟨live, stored, found⟩ call asks
    refine ⟨live.toValue, ?_, found⟩
    rw [Request.step_of_read state (read asks), Request.perform, stored]

/-- What some fields told in front of a call they tell behind it. -/
def Keeps (state : AppStateInner) (call : Call) (sessionId : String) (fields : List String) :
    Prop :=
  ∀ field ∈ fields, ∀ text, Tells state sessionId field text →
    Tells (daemon.step state call).2 sessionId field text

/-- A session is published as idle and nowhere. -/
def idleLive (sessionId : String) (env : Env) : LiveState where
  sessionId
  focusFile := none
  focusBranch := none
  worktree := none
  status := .idle
  lastHeartbeat := env.now

/-- A call publishes a session as idle and nowhere. -/
def PublishesIdle (state : AppStateInner) (call : Call) (sessionId : String) : Prop :=
  (daemon.step state call).2.liveState.get sessionId = some (idleLive sessionId call.env)

theorem publishesIdle_of_read {call : Call}
    (read : Request.read call.method call.params =
      .ok (.stateSet sessionId none none none .idle))
    (registered : state.sessions.containsKey sessionId = true) :
    PublishesIdle state call sessionId := by
  rw [PublishesIdle, Request.step_of_read state read, Request.perform, if_pos registered]
  exact HashMap.get_insert_self _ _ _

namespace PublishesIdle

variable {call : Call}

theorem tells_iff {field text : String} (publishes : PublishesIdle state call sessionId) :
    Tells (daemon.step state call).2 sessionId field text ↔
      (idleLive sessionId call.env).toValue.get field = some (.string text) := by
  rw [TeamComm.tells_iff, publishes]
  simp

theorem status_iff (publishes : PublishesIdle state call sessionId) (status : AgentStatus) :
    Tells (daemon.step state call).2 sessionId "status" status.name ↔ status = .idle := by
  have found : (idleLive sessionId call.env).toValue.get "status" = some (.string "idle") := by
    simp [idleLive, LiveState.toValue, Value.get_object, Json.lookup_cons_eq_ite,
      AgentStatus.toValue, Value.string]
  rw [publishes.tells_iff, found, Option.some.injEq, Json.string.injEq]
  exact eq_comm.trans (@AgentStatus.name_inj status .idle)

/-- Nothing is told of where the session works. -/
theorem nowhere (publishes : PublishesIdle state call sessionId) {field text : String}
    (place : field ∈ placeFields) : ¬Tells (daemon.step state call).2 sessionId field text := by
  rw [publishes.tells_iff]
  simp only [placeFields, List.mem_cons, List.not_mem_nil, or_false] at place
  rcases place with rfl | rfl | rfl <;>
    simp [idleLive, LiveState.toValue, Value.get_object, Json.lookup_cons_eq_ite, optionValue,
      Value.null]

/-- Nothing is erased exactly when nothing was told. -/
theorem keeps_iff (publishes : PublishesIdle state call sessionId) :
    Keeps state call sessionId placeFields ↔
      ∀ field ∈ placeFields, ∀ text, ¬Tells state sessionId field text := by
  constructor
  · exact fun keeps field place text told => publishes.nowhere place (keeps field place text told)
  · exact fun untold field place text told => absurd told (untold field place text)

end PublishesIdle

/-! ## The two tools -/

/-- A call makes a status known and erases nothing. -/
def SetsStatus (state : AppStateInner) (call : Call) (sessionId : String) (status : AgentStatus) :
    Prop :=
  Tells (daemon.step state call).2 sessionId "status" status.name ∧
    Keeps state call sessionId placeFields

/-- A call makes a focus of a working session known and erases nothing else. -/
def AnnouncesFocus (state : AppStateInner) (call : Call) (sessionId focus : String) : Prop :=
  Tells (daemon.step state call).2 sessionId "status" AgentStatus.working.name ∧
    Tells (daemon.step state call).2 sessionId "focus_file" focus ∧
    Keeps state call sessionId ["focus_branch", "worktree"]

namespace Mcp

/-- `set_status` takes effect exactly when it sets a session to idle of which no focus, branch or
worktree is known; `announce_focus` never does. -/
theorem toolStatus_iff (registered : state.sessions.containsKey sessionId = true) :
    (∀ args sent env text status, requireStr args "session_id" = .ok sessionId →
      requireStr args "status" = .ok text → parseAgentStatus text = .ok status →
      Sends setStatus args sent →
      (SetsStatus state (sent.call env) sessionId status ↔ status = .idle ∧
        ∀ field ∈ placeFields, ∀ told, ¬Tells state sessionId field told)) ∧
    ∀ args sent env focus, requireStr args "session_id" = .ok sessionId →
      requireStr args "focus" = .ok focus → Sends announceFocus args sent →
      ¬AnnouncesFocus state (sent.call env) sessionId focus := by
  constructor
  · intro args sent env text status session published _ sends
    have publishes : PublishesIdle state (sent.call env) sessionId :=
      publishesIdle_of_read (read_setStatus session published sends) registered
    exact and_congr (publishes.status_iff status) publishes.keeps_iff
  · intro args sent env focus session announced sends announces
    have publishes : PublishesIdle state (sent.call env) sessionId :=
      publishesIdle_of_read (read_announceFocus session announced sends) registered
    exact publishes.nowhere (by decide) announces.2.1

end Mcp

end Status

section Examples

open Mcp

attribute [local instance] Chrono.utc

/-- An agent registers, and tells what it works on. -/
def workingAgent : List Call := [
  ⟨"session.register", .object [("pid", .u64 1)], .ofSeconds 0 "a"⟩,
  ⟨"state.set", .object [("session_id", .string "sess_a"), ("status", .string "working"),
    ("focus_file", .string "/src/lib.rs")], .ofSeconds 1 "b"⟩]

/-- The arguments of `set_status`. -/
def statusArgs (status : String) : Value :=
  .object [("session_id", .string "sess_a"), ("status", .string status)]

theorem toolStatus_iff_idle :
    ∃ sent, Sends setStatus (statusArgs "idle") sent ∧
      SetsStatus (daemon.run newState (workingAgent.take 1)) (sent.call (.ofSeconds 1 "b")) "sess_a"
        .idle := by
  refine ⟨_, sends_setStatus rfl rfl, ?_⟩
  refine ((toolStatus_iff rfl).1 (statusArgs "idle") _ _ "idle" .idle rfl rfl (by decide)
    (sends_setStatus rfl rfl)).mpr ⟨rfl, fun field _ told tells => ?_⟩
  obtain ⟨live, stored, -⟩ := tells_iff.mp tells
  cases stored

/-- A status which is set of a working agent hides what the agent works on. -/
theorem not_toolStatus_blocked :
    ¬∀ (calls : List Call) (sessionId : String),
      (daemon.run newState calls).sessions.containsKey sessionId = true →
      (∀ args sent env text status, requireStr args "session_id" = .ok sessionId →
        requireStr args "status" = .ok text → parseAgentStatus text = .ok status →
        Sends setStatus args sent →
        SetsStatus (daemon.run newState calls) (sent.call env) sessionId status) ∧
      ∀ args sent env focus, requireStr args "session_id" = .ok sessionId →
        requireStr args "focus" = .ok focus → Sends announceFocus args sent →
        AnnouncesFocus (daemon.run newState calls) (sent.call env) sessionId focus := by
  intro effective
  have sends : Sends setStatus (statusArgs "blocked") _ := sends_setStatus rfl rfl
  have publishes : PublishesIdle (daemon.run newState workingAgent)
      (MethodCall.call _ (.ofSeconds 2 "c")) "sess_a" :=
    publishesIdle_of_read (read_setStatus rfl rfl sends) rfl
  have sets := (effective workingAgent "sess_a" rfl).1 _ _ (.ofSeconds 2 "c") "blocked" .blocked rfl
    rfl (by decide) sends
  have idle := (publishes.status_iff .blocked).mp sets.1
  cases idle

end Examples

end TeamComm
