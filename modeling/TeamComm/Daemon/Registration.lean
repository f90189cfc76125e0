import TeamComm.Daemon.Effect

/-!
# Registrations

What `session.register` reads off its parameters, the session it creates, and the whole of what it
does to the state.
-/

namespace TeamComm

open Json (Value)

/-- The session a registration creates. -/
def newSession (env : Env) (pid : UInt32) (agentType : AgentType) (workingDir : PathBuf)
    (capabilities : List String) : Session where
  sessionId := env.mintSessionId
  agentType
  pid
  startedAt := env.now
  workingDir
  capabilities
  lastHeartbeat := env.now

/-- The answer to a registration. -/
def registerReply (sessionId : String) : Value :=
  .object [("session_id", .string sessionId), ("lease_ttl_sec", .u64 leaseTtlSec)]

theorem sessionId_registerReply (sessionId : String) :
    (registerReply sessionId).get "session_id" = some (.string sessionId) := by
  simp [registerReply, Value.get_object, Json.lookup_cons_eq_ite, Value.string]

/-- The session of a process. -/
def sessionOf (state : AppStateInner) (pid : UInt32) : Option (String × Session) :=
  (state.sessionsByPid.get pid).bind fun id => (state.sessions.get id).map fun session =>
    (id, session)

theorem sessionOf_eq_some {state : AppStateInner} {pid : UInt32} {id : String}
    {session : Session} : sessionOf state pid = some (id, session) ↔
      state.sessionsByPid.get pid = some id ∧ state.sessions.get id = some session := by
  simp only [sessionOf, Option.bind_eq_some_iff, Option.map_eq_some_iff, Prod.mk.injEq]
  constructor
  · rintro ⟨_, indexed, _, stored, rfl, rfl⟩
    exact ⟨indexed, stored⟩
  · rintro ⟨indexed, stored⟩
    exact ⟨id, indexed, session, stored, rfl, rfl⟩

/-- A registration refreshes the session of its process or creates one. -/
theorem exec_sessionRegister (env : Env) (payload : Value) (before : AppStateInner) :
    (handleSessionRegister env payload).exec before =
      match getU64 payload "pid" with
      | none => (.error (.error (.invalidParams "missing required field: pid")), before)
      | some pid =>
          match sessionOf before pid.toUInt32 with
          | some (id, existing) => (.ok (registerReply id),
              { before with
                sessions := before.sessions.insert id { existing with lastHeartbeat := env.now } })
          | none => (.ok (registerReply env.mintSessionId),
              { before with
                sessions := before.sessions.insert env.mintSessionId
                  (newSession env pid.toUInt32
                    (parseAgentType ((getStr payload "agent_type").getD "custom"))
                    ((getPath payload "working_dir").getD ⟨"/"⟩)
                    (getStrings payload "capabilities"))
                sessionsByPid := before.sessionsByPid.insert pid.toUInt32 env.mintSessionId }) := by
  simp only [handleSessionRegister, Handler.exec_check_bind, Handler.exec_get_bind]
  cases getU64 payload "pid" with
  | none => rfl
  | some pid =>
      simp only [required, sessionOf]
      cases before.sessionsByPid.get pid.toUInt32 with
      | none => rfl
      | some id =>
          simp only [Option.bind_some]
          cases before.sessions.get id <;> rfl

section Steps

variable [Chrono] {call : Call} {before : AppStateInner}

theorem step_register (method : call.method = "session.register") :
    daemon.step before call = (handleSessionRegister call.env call.params).exec before := by
  change (dispatch call.method call.params call.env).exec before = _
  rw [method]
  rfl

/-- Every number which is there and fits in a `u64` registers. -/
theorem register_answered (method : call.method = "session.register") {pid : UInt64}
    (read : getU64 call.params "pid" = some pid) :
    ∃ id, (daemon.step before call).1 = .ok (registerReply id) := by
  rw [step_register method, exec_sessionRegister, read]
  dsimp only
  split
  · exact ⟨_, rfl⟩
  · exact ⟨_, rfl⟩

end Steps

end TeamComm
