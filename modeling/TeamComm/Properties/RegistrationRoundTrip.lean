import TeamComm.Daemon.Request

/-!
# Typed registrations

A `SessionRegistration` is written by its serde encoding and read by `session.register`, which looks
for the agent type in a string.  The encoding of a custom agent type is an object, so the handler
falls back on its default and the identifier is lost.
-/

namespace TeamComm

open Json (Value)

/-- What is left of an agent type behind a registration. -/
def AgentType.registered : AgentType → AgentType
  | .custom _ => .custom "custom"
  | known => known

theorem registered_eq_self {agentType : AgentType} :
    agentType.registered = agentType ↔
      ∀ identifier, agentType = .custom identifier → identifier = "custom" := by
  cases agentType with
  | custom identifier => simp [AgentType.registered, eq_comm]
  | _ => simp [AgentType.registered]

theorem parseAgentType_toValue (registration : SessionRegistration) :
    parseAgentType ((getStr registration.toValue "agent_type").getD "custom") =
      registration.agentType.registered := by
  have found : registration.toValue.get "agent_type" = some registration.agentType.toValue.doc := by
    simp [SessionRegistration.toValue, Value.get_object, Json.lookup_cons_eq_ite]
  rw [getStr, found]
  cases registration.agentType with
  | custom identifier =>
      change parseAgentType "custom" = .custom "custom"
      decide
  | _ => decide

/-- Everything but a custom agent type is read as it was written. -/
theorem read_registration (registration : SessionRegistration) :
    Request.read "session.register" registration.toValue =
      .ok (.sessionRegister registration.pid registration.agentType.registered
        registration.workingDir registration.capabilities) := by
  have pid : getU64 registration.toValue "pid" = some registration.pid.toUInt64 := by
    simp [getU64, SessionRegistration.toValue, Value.get_object, Json.lookup_cons_eq_ite]
  have workingDir : getPath registration.toValue "working_dir" = some registration.workingDir := by
    simp [getPath, getStr, SessionRegistration.toValue, Value.get_object, Json.lookup_cons_eq_ite,
      PathBuf.toValue]
  have capabilities :
      getStrings registration.toValue "capabilities" = registration.capabilities := by
    apply getStrings_array
    simp [SessionRegistration.toValue, Value.get_object]
  simp [Request.read, pid, workingDir, capabilities, parseAgentType_toValue, required]

section RoundTrip

variable [Chrono]

/-- A registration is stored as it was written. -/
def SurvivesRegistration (env : Env) (state : AppStateInner) (registration : SessionRegistration) :
    Prop :=
  ∃ reply id session,
    ((handleSessionRegister env registration.toValue).exec state).1 = .ok reply ∧
    reply.get "session_id" = some (.string id) ∧
    ((handleSessionRegister env registration.toValue).exec state).2.sessions.get id =
      some session ∧
    session.agentType = registration.agentType ∧ session.pid = registration.pid ∧
    session.workingDir = registration.workingDir ∧
    session.capabilities = registration.capabilities

/-- A new process is stored as it registers unless it has a custom agent type of another name than
the default. -/
theorem survivesRegistration_iff {env : Env} {state : AppStateInner}
    {registration : SessionRegistration} (unregistered : sessionOf state registration.pid = none) :
    SurvivesRegistration env state registration ↔
      ∀ identifier, registration.agentType = .custom identifier → identifier = "custom" := by
  have outcome : (handleSessionRegister env registration.toValue).exec state =
      (.ok (registerReply env.mintSessionId),
        { state with
          sessions := state.sessions.insert env.mintSessionId
            (newSession env registration.pid registration.agentType.registered
              registration.workingDir registration.capabilities)
          sessionsByPid := state.sessionsByPid.insert registration.pid env.mintSessionId }) := by
    change (dispatch "session.register" registration.toValue env).exec state = _
    rw [Request.exec_dispatch, read_registration]
    simp only [Request.performed, Request.perform, unregistered]
  rw [← registered_eq_self, SurvivesRegistration, outcome]
  constructor
  · rintro ⟨reply, id, session, answered, named, stored, agentType, -⟩
    obtain rfl := Except.ok.inj answered
    obtain rfl : env.mintSessionId = id :=
      Json.string.inj (Option.some.inj ((sessionId_registerReply _).symm.trans named))
    obtain rfl := Option.some.inj ((HashMap.get_insert_self _ _ _).symm.trans stored)
    exact agentType
  · intro survives
    exact ⟨_, _, _, rfl, sessionId_registerReply _, HashMap.get_insert_self _ _ _, survives, rfl,
      rfl, rfl⟩

end RoundTrip

section Examples

attribute [local instance] Chrono.utc

theorem survivesRegistration_iff_claude :
    SurvivesRegistration (.ofSeconds 0 "a") newState
      ⟨.claude, 99, ⟨"/home/me/repo"⟩, ["read"]⟩ :=
  (survivesRegistration_iff (by decide)).mpr fun _ custom => by cases custom

/-- An agent of a kind the protocol does not list. -/
def aiderRegistration : SessionRegistration := ⟨.custom "aider", 99, ⟨"/home/me/repo"⟩, ["read"]⟩

theorem not_survivesRegistration_aider :
    ¬SurvivesRegistration (.ofSeconds 0 "a") newState aiderRegistration := by
  rintro ⟨reply, id, session, answered, named, stored, agentType, -⟩
  obtain rfl := Except.ok.inj answered
  obtain rfl : "sess_a" = id := Json.string.inj (Option.some.inj named)
  obtain rfl := Option.some.inj stored
  exact absurd agentType (by decide)

end Examples

end TeamComm
