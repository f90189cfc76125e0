import TeamComm.Mcp.Handlers

/-!
# What the tools ask of the daemon

A tool which accepts its arguments sends one call and returns the answer.  The daemon reads a
request off that call: it finds the arguments which stand under its own names, and takes its
defaults for the others.
-/

namespace TeamComm

open Json (Value)

/-- A sent call as the daemon executes it. -/
def MethodCall.call (sent : MethodCall) (env : Env) : Call := ⟨sent.method, sent.params, env⟩

namespace Mcp

/-- Whatever its host is, a tool forwards a call. -/
def Sends (tool : Host → Value → Except String Value) (args : Value) (sent : MethodCall) : Prop :=
  ∃ label params, sent.params = .object params ∧
    ∀ host, tool host args = forward host label sent.method params

/-- A tool has no choice of calls. -/
theorem Sends.unique {tool : Host → Value → Except String Value} {args : Value}
    {sent other : MethodCall} (sends : Sends tool args sent) (other_sends : Sends tool args other) :
    sent = other := by
  classical
  obtain ⟨label, params, params_eq, forwards⟩ := sends
  obtain ⟨other_label, other_params, other_eq, other_forwards⟩ := other_sends
  let call (asked : MethodCall) : Except String Value :=
    if asked = sent then .ok .null else .error "another call"
  have same := (forwards ⟨0, .ok ⟨⟩, call⟩).symm.trans (other_forwards ⟨0, .ok ⟨⟩, call⟩)
  have sent_eq : sent = ⟨sent.method, .object params⟩ := by rw [← params_eq]
  have other_sent_eq : other = ⟨other.method, .object other_params⟩ := by rw [← other_eq]
  simp only [forward, call, ← sent_eq, ← other_sent_eq, if_true] at same
  by_contra different
  rw [if_neg (Ne.symm different)] at same
  cases same

section Reading

attribute [local simp] requiredStr required getStr getPath getU64 getBool givenStr Value.get_object
  Json.lookup_cons_eq_ite

variable {args : Value} {sent : MethodCall}

/-! ## Reservations -/

theorem sends_claimFile {sessionId path mode : String}
    (session : requireStr args "session_id" = .ok sessionId)
    (claimed : requireStr args "path" = .ok path) (asked : requireStr args "mode" = .ok mode) :
    Sends claimFile args ⟨"reservation.claim", .object ([
      ("session_id", .string sessionId),
      ("path", .string path),
      ("mode", .string mode),
      ("ttl_seconds", .u64 ((optU64 args "ttl_sec").getD 300))] ++
        givenStr "reason" (optStr args "reason"))⟩ := by
  refine ⟨"reservation.claim", _, rfl, fun host => ?_⟩
  simp only [claimFile, session, claimed, asked]
  rfl

/-- The daemon finds no lifetime in a claim which a tool sends. -/
theorem read_claimFile {sessionId path modeText : String} {mode : ReservationMode}
    (session : requireStr args "session_id" = .ok sessionId)
    (claimed : requireStr args "path" = .ok path) (asked : requireStr args "mode" = .ok modeText)
    (known : parseReservationMode modeText = .ok mode) (sends : Sends claimFile args sent) :
    Request.read sent.method sent.params = .ok (.reservationClaim sessionId ⟨path⟩ mode 600) := by
  obtain rfl := sends.unique (sends_claimFile session claimed asked)
  cases optStr args "reason" <;> simp [Request.read, known] <;> rfl

theorem sends_releaseFile {reservationId : String}
    (named : requireStr args "reservation_id" = .ok reservationId) :
    Sends releaseFile args ⟨"reservation.release", .object ([
      ("reservation_id", .string reservationId)] ++
        givenStr "session_id" (optStr args "session_id"))⟩ := by
  refine ⟨"reservation.release", _, rfl, fun host => ?_⟩
  simp only [releaseFile, named]
  rfl

/-- The identity a tool passes along reaches the daemon. -/
theorem names_releaseFile {reservationId sessionId : String}
    (named : requireStr args "reservation_id" = .ok reservationId)
    (session : optStr args "session_id" = some sessionId) (sends : Sends releaseFile args sent) :
    sent.method = "reservation.release" ∧
      getStr sent.params "reservation_id" = some reservationId ∧
      getStr sent.params "session_id" = some sessionId := by
  obtain rfl := sends.unique (sends_releaseFile named)
  simp [session]

theorem sends_listClaims : Sends listClaims args ⟨"reservation.list", .object (
    givenStr "session_id" (optStr args "session_id") ++
      givenStr "path_prefix" (optStr args "path_prefix") ++
      givenStr "mode" (optStr args "mode"))⟩ :=
  ⟨"reservation.list", _, rfl, fun _ => rfl⟩

/-- The daemon finds no filter in a list which a tool sends. -/
theorem read_listClaims (sends : Sends listClaims args sent) :
    Request.read sent.method sent.params = .ok (.reservationList none) := by
  obtain rfl := sends.unique sends_listClaims
  cases optStr args "session_id" <;> cases optStr args "path_prefix" <;>
    cases optStr args "mode" <;> simp [Request.read] <;> rfl

/-! ## Inbox -/

theorem sends_postMessage {sessionId body : String}
    (session : requireStr args "session_id" = .ok sessionId)
    (text : requireStr args "body" = .ok body) :
    Sends postMessage args ⟨"inbox.post", .object ([
      ("from_session", .string sessionId),
      ("kind", .string ((optStr args "kind").getD "note")),
      ("priority", .string ((optStr args "priority").getD "normal")),
      ("body", .string body),
      ("to_session", .string ((optStr args "to").getD ""))] ++
        givenStr "subject" (optStr args "topic"))⟩ := by
  refine ⟨"inbox.post", _, rfl, fun host => ?_⟩
  simp only [postMessage, session, text]
  rfl

/-- A message without a recipient is posted to the session with the empty name. -/
theorem read_postMessage {sessionId body : String} {priority : Priority}
    (session : requireStr args "session_id" = .ok sessionId)
    (text : requireStr args "body" = .ok body)
    (known : parsePriority ((optStr args "priority").getD "normal") = .ok priority)
    (sends : Sends postMessage args sent) :
    Request.read sent.method sent.params = .ok (.inboxPost sessionId
      ((optStr args "to").getD "") ((optStr args "topic").getD "") body priority) := by
  obtain rfl := sends.unique (sends_postMessage session text)
  cases optStr args "topic" <;> simp [Request.read, known] <;> rfl

theorem sends_readInbox {sessionId : String}
    (session : requireStr args "session_id" = .ok sessionId) :
    Sends readInbox args ⟨"inbox.list", .object ([("session_id", .string sessionId)] ++
      (match optU64 args "limit" with
        | some limit => [("limit", Value.u64 limit)]
        | none => []) ++
      givenStr "since" (optStr args "since"))⟩ := by
  refine ⟨"inbox.list", _, rfl, fun host => ?_⟩
  simp only [readInbox, session]
  rfl

/-- The daemon finds no instant in a list which a tool sends. -/
theorem read_readInbox {sessionId : String}
    (session : requireStr args "session_id" = .ok sessionId) (sends : Sends readInbox args sent) :
    Request.read sent.method sent.params =
      .ok (.inboxList sessionId false ((optU64 args "limit").getD 50)) := by
  obtain rfl := sends.unique (sends_readInbox session)
  cases optU64 args "limit" <;> cases optStr args "since" <;> simp [Request.read, getBool]

/-! ## State and discovery -/

theorem sends_announceFocus {sessionId focus : String}
    (session : requireStr args "session_id" = .ok sessionId)
    (announced : requireStr args "focus" = .ok focus) :
    Sends announceFocus args ⟨"state.set", .object [
      ("session_id", .string sessionId),
      ("state", .object [("focus", .string focus), ("status", .string "working")])]⟩ := by
  refine ⟨"state.set (announce_focus)", _, rfl, fun host => ?_⟩
  simp only [announceFocus, session, announced]
  rfl

theorem sends_setStatus {sessionId status : String}
    (session : requireStr args "session_id" = .ok sessionId)
    (published : requireStr args "status" = .ok status) :
    Sends setStatus args ⟨"state.set", .object [
      ("session_id", .string sessionId),
      ("state", .object ([("status", .string status)] ++
        givenStr "status_message" (optStr args "message")))]⟩ := by
  refine ⟨"state.set (set_status)", _, rfl, fun host => ?_⟩
  simp only [setStatus, session, published]
  rfl

/-- Nothing of a nested state is read. -/
private theorem read_nested (sessionId : String) (nested : Value) :
    Request.read "state.set" (.object [("session_id", .string sessionId), ("state", nested)]) =
      .ok (.stateSet sessionId none none none .idle) := by
  have idle : parseAgentStatus "idle" = .ok .idle := by decide
  simp [Request.read, idle]
  rfl

/-- The daemon finds no focus in what a tool announces. -/
theorem read_announceFocus {sessionId focus : String}
    (session : requireStr args "session_id" = .ok sessionId)
    (announced : requireStr args "focus" = .ok focus) (sends : Sends announceFocus args sent) :
    Request.read sent.method sent.params = .ok (.stateSet sessionId none none none .idle) := by
  obtain rfl := sends.unique (sends_announceFocus session announced)
  exact read_nested _ _

/-- The daemon finds no status in what a tool publishes. -/
theorem read_setStatus {sessionId status : String}
    (session : requireStr args "session_id" = .ok sessionId)
    (published : requireStr args "status" = .ok status) (sends : Sends setStatus args sent) :
    Request.read sent.method sent.params = .ok (.stateSet sessionId none none none .idle) := by
  obtain rfl := sends.unique (sends_setStatus session published)
  exact read_nested _ _

theorem sends_discoverAgentsForPath {path : String} (looked : requireStr args "path" = .ok path) :
    Sends discoverAgentsForPath args ⟨"discover.agents", .object ([
      ("path", .string path),
      ("include_idle", .bool ((optBool args "include_idle").getD false))] ++
        givenStr "agent_type" (optStr args "agent_type"))⟩ := by
  refine ⟨"discover.agents", _, rfl, fun host => ?_⟩
  simp only [discoverAgentsForPath, looked]
  rfl

/-- The daemon looks for agents of any status. -/
theorem read_discoverAgentsForPath {path : String} (looked : requireStr args "path" = .ok path)
    (sends : Sends discoverAgentsForPath args sent) :
    Request.read sent.method sent.params = .ok (.discoverAgents (some ⟨path⟩) none []) := by
  obtain rfl := sends.unique (sends_discoverAgentsForPath looked)
  cases optStr args "agent_type" <;> simp [Request.read, getStrings] <;> rfl

end Reading

end Mcp

end TeamComm
