import TeamComm.Client.Methods

/-!
# Client and daemon

Every typed client method names a method the daemon implements, and the handler of that method reads
back exactly the arguments.
-/

namespace TeamComm

open Json (Value)

namespace ClientMethod

/-- The request the arguments of a method stand for. -/
def intended : ClientMethod → Except TeamcommError Request
  | sessionRegister pid agentType workingDir capabilities =>
      .ok (.sessionRegister pid (parseAgentType agentType) ⟨workingDir.getD "/"⟩ capabilities)
  | sessionDeregister sessionId => .ok (.sessionDeregister sessionId)
  | sessionHeartbeat sessionId => .ok (.sessionHeartbeat sessionId)
  | sessionList => .ok .sessionList
  | sessionGet sessionId => .ok (.sessionGet sessionId)
  | reservationClaim sessionId path mode ttlSec =>
      (parseReservationMode mode).map (.reservationClaim sessionId ⟨path⟩ · ttlSec)
  | reservationRelease reservationId => .ok (.reservationRelease reservationId)
  | reservationList path => .ok (.reservationList (path.map PathBuf.mk))
  | inboxPost fromSession toSession subject body priority =>
      (parsePriority priority).map (.inboxPost fromSession toSession subject body)
  | inboxList sessionId unreadOnly limit =>
      .ok (.inboxList sessionId unreadOnly limit.toUInt64)
  | inboxRead messageId => .ok (.inboxRead messageId)
  | stateSet sessionId focusFile focusBranch worktree status =>
      (parseAgentStatus status).map
        (.stateSet sessionId (focusFile.map PathBuf.mk) focusBranch (worktree.map PathBuf.mk))
  | stateGet sessionId => .ok (.stateGet sessionId)
  | discoverAgents path branch capabilities =>
      .ok (.discoverAgents (path.map PathBuf.mk) branch capabilities)

/-- The handler a method is meant for. -/
def handler [Chrono] : ClientMethod → Env → Value → Handler Value
  | sessionRegister .. => handleSessionRegister
  | sessionDeregister .. => fun _ => handleSessionDeregister
  | sessionHeartbeat .. => handleSessionHeartbeat
  | sessionList => handleSessionList
  | sessionGet .. => fun _ => handleSessionGet
  | reservationClaim .. => handleReservationClaim
  | reservationRelease .. => fun _ => handleReservationRelease
  | reservationList .. => handleReservationList
  | inboxPost .. => handleInboxPost
  | inboxList .. => fun _ => handleInboxList
  | inboxRead .. => handleInboxRead
  | stateSet .. => handleStateSet
  | stateGet .. => fun _ => handleStateGet
  | discoverAgents .. => handleDiscoverAgents

section Reading

attribute [local simp] requiredStr required getStr getPath getU64 getBool givenStr Value.get_object
  Json.lookup_cons_eq_ite

theorem getStrings_sessionRegister (pid : UInt32) (agentType : String) (workingDir : Option String)
    (capabilities : List String) :
    getStrings (Client.sessionRegister pid agentType workingDir capabilities).params
      "capabilities" = capabilities := by
  apply getStrings_array
  cases workingDir <;> simp [Client.sessionRegister]

theorem getStrings_discoverAgents (path branch : Option String) (capabilities : List String) :
    getStrings (Client.discoverAgents path branch capabilities).params "capabilities" =
      capabilities := by
  apply getStrings_array
  cases path <;> cases branch <;> simp [Client.discoverAgents]

/-- Reading what a method sends yields its arguments. -/
theorem read_sent (call : ClientMethod) :
    Request.read call.sent.method call.sent.params = call.intended := by
  cases call with
  | sessionRegister pid agentType workingDir capabilities =>
      simp only [sent, intended, Request.read, getStrings_sessionRegister]
      cases workingDir <;> simp [Client.sessionRegister]
  | sessionDeregister sessionId => simp [sent, Client.sessionDeregister, intended, Request.read]
  | sessionHeartbeat sessionId => simp [sent, Client.sessionHeartbeat, intended, Request.read]
  | sessionList => rfl
  | sessionGet sessionId => simp [sent, Client.sessionGet, intended, Request.read]
  | reservationClaim sessionId path mode ttlSec =>
      simp [sent, Client.reservationClaim, intended, Request.read]
      cases parseReservationMode mode <;> rfl
  | reservationRelease reservationId =>
      simp [sent, Client.reservationRelease, intended, Request.read]
  | reservationList path =>
      cases path <;> simp [sent, Client.reservationList, intended, Request.read] <;> rfl
  | inboxPost fromSession toSession subject body priority =>
      simp [sent, Client.inboxPost, intended, Request.read]
      cases parsePriority priority <;> rfl
  | inboxList sessionId unreadOnly limit => simp [sent, Client.inboxList, intended, Request.read]
  | inboxRead messageId => simp [sent, Client.inboxRead, intended, Request.read]
  | stateSet sessionId focusFile focusBranch worktree status =>
      cases focusFile <;> cases focusBranch <;> cases worktree <;>
        simp [sent, Client.stateSet, intended, Request.read]
      all_goals cases parseAgentStatus status <;> rfl
  | stateGet sessionId => simp [sent, Client.stateGet, intended, Request.read]
  | discoverAgents path branch capabilities =>
      simp only [sent, intended, Request.read, getStrings_discoverAgents]
      cases path <;> cases branch <;> simp [Client.discoverAgents] <;> rfl

end Reading

variable [Chrono]

/-- A method is routed to its handler, whatever its parameters. -/
theorem dispatch_sent (call : ClientMethod) (params : Value) (env : Env) :
    dispatch call.sent.method params env = call.handler env params := by
  cases call <;> rfl

/-- Every typed method reaches its handler, which reads exactly the arguments, and the daemon does
what they ask for. -/
theorem client_daemon_agree (call : ClientMethod) :
    (∀ params env, dispatch call.sent.method params env = call.handler env params) ∧
    Request.read call.sent.method call.sent.params = call.intended ∧
    ∀ env state, (call.handler env call.sent.params).exec state =
      Request.performed env state call.intended := by
  refine ⟨dispatch_sent call, read_sent call, fun env state => ?_⟩
  rw [← dispatch_sent, Request.exec_dispatch, read_sent]

end ClientMethod

end TeamComm
