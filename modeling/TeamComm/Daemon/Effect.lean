import TeamComm.Daemon.Listener

/-!
# Effects of a call

Everything a dispatched call can do to the state and answer to its client, one constructor for each
kind of outcome with the guards under which it happens.  Invariants of runs are case analyses over
these constructors; no later proof looks into a handler again.
-/

namespace TeamComm

open Json (Value)

/-! ## Claims -/

/-- What a claim asks for, read off its parameters and its clock. -/
structure Claim where
  /-- The claiming session. -/
  sessionId : String
  /-- The claimed path. -/
  path : PathBuf
  /-- The claimed mode. -/
  mode : ReservationMode
  /-- When the claim expires. -/
  expires : DateTime

/-- The checks a claim passes before it takes the lock. -/
def claimOf (env : Env) (payload : Value) : Except Failure Claim :=
  match requiredStr payload "session_id" with
  | .error error => .error (.error error)
  | .ok sessionId =>
      match required "path" (getPath payload "path") with
      | .error error => .error (.error error)
      | .ok path =>
          match parseReservationMode ((getStr payload "mode").getD "write") with
          | .error error => .error (.error error)
          | .ok mode =>
              match expiry env.now ((getU64 payload "ttl_sec").getD 600) with
              | .error failure => .error failure
              | .ok expires => .ok { sessionId, path, mode, expires }

namespace Claim

/-- The reservation a claim stores. -/
def reservation (claim : Claim) (env : Env) : Reservation where
  reservationId := env.mintReservationId
  sessionId := claim.sessionId
  path := claim.path
  mode := claim.mode
  acquiredAt := env.now
  expiresAt := claim.expires

/-- The reservations a claim finds in its way. -/
def conflicts (claim : Claim) (env : Env) (state : AppStateInner) : List Reservation :=
  (env.order.arrange state.reservations.values).filter
    (blocksClaim env.now claim.sessionId claim.path claim.mode)

/-- The answer to a claim. -/
def reply [Chrono] (claim : Claim) (env : Env) (state : AppStateInner) : Value :=
  .object [
    ("reservation_id", .string env.mintReservationId),
    ("conflicts", .array ((claim.conflicts env state).map Reservation.toValue))]

theorem conflicts_reply [Chrono] (claim : Claim) (env : Env) (state : AppStateInner) :
    (claim.reply env state).get "conflicts" =
      some (Value.array ((claim.conflicts env state).map Reservation.toValue)).doc := by
  simp [reply, Value.get_object]

theorem reservationId_reply [Chrono] (claim : Claim) (env : Env) (state : AppStateInner) :
    (claim.reply env state).get "reservation_id" = some (.string env.mintReservationId) := by
  simp [reply, Value.get_object, Json.lookup_cons_eq_ite, Value.string]

end Claim

/-! ## Effects -/

section Effects

variable [Chrono]

/-- Methods which only look at the state. -/
def queryMethods : List String :=
  ["session.list", "session.get", "reservation.list", "state.get", "discover.agents"]

/-- What a call can answer and the state it can leave behind. -/
inductive Effect (call : Call) (before : AppStateInner) :
    Except Failure Value × AppStateInner → Prop
  /-- The call fails. -/
  | fails (failure : Failure) : Effect call before (.error failure, before)
  /-- The call only looks at the state. -/
  | answers (value : Value) (query : call.method ∈ queryMethods) :
      Effect call before (.ok value, before)
  /-- A session is created. -/
  | registers (session : Session) (method : call.method = "session.register")
      (minted : session.sessionId = call.env.mintSessionId)
      (unindexed : ∀ id, before.sessionsByPid.get session.pid = some id →
        before.sessions.get id = none) :
      Effect call before
        (.ok (.object [
          ("session_id", .string session.sessionId), ("lease_ttl_sec", .u64 leaseTtlSec)]),
        { before with
          sessions := before.sessions.insert session.sessionId session
          sessionsByPid := before.sessionsByPid.insert session.pid session.sessionId })
  /-- A session is refreshed. -/
  | refreshes (id : String) (session : Session) (reply : Value)
      (method : call.method = "session.register" ∨ call.method = "session.heartbeat")
      (stored : before.sessions.get id = some session) :
      Effect call before (.ok reply,
        { before with
          sessions := before.sessions.insert id { session with lastHeartbeat := call.env.now } })
  /-- A session is removed. -/
  | deregisters (id : String) (session : Session) (method : call.method = "session.deregister")
      (named : getStr call.params "session_id" = some id)
      (stored : before.sessions.get id = some session) :
      Effect call before (.ok (.object [("ok", .bool true)]),
        { before with
          sessions := before.sessions.remove id
          sessionsByPid := before.sessionsByPid.remove session.pid })
  /-- An unknown session is deregistered. -/
  | forgets (id : String) (method : call.method = "session.deregister")
      (named : getStr call.params "session_id" = some id)
      (unknown : before.sessions.get id = none) :
      Effect call before (.ok (.object [("ok", .bool true)]), before)
  /-- A reservation is stored. -/
  | claims (claim : Claim) (method : call.method = "reservation.claim")
      (parsed : claimOf call.env call.params = .ok claim)
      (registered : before.sessions.containsKey claim.sessionId = true) :
      Effect call before (.ok (claim.reply call.env before),
        { before with
          reservations := before.reservations.insert call.env.mintReservationId
            (claim.reservation call.env) })
  /-- A reservation is dropped. -/
  | releases (id : String) (method : call.method = "reservation.release")
      (stored : before.reservations.containsKey id = true) :
      Effect call before (.ok (.object [("ok", .bool true)]),
        { before with reservations := before.reservations.remove id })
  /-- A message is appended to an inbox. -/
  | posts (message : InboxMessage) (method : call.method = "inbox.post")
      (minted : message.messageId = call.env.mintMessageId) (unread : message.read = false)
      (addressed : getStr call.params "to_session" = some message.toSession)
      (sender : before.sessions.containsKey message.fromSession = true) :
      Effect call before (.ok (.object [("message_id", .string message.messageId)]),
        { before with
          inbox := before.inbox.insert message.toSession
            ((before.inbox.get message.toSession).getD [] ++ [message]) })
  /-- Messages of an inbox are handed out and marked as read. -/
  | lists (id : String) (listed : List String) (method : call.method = "inbox.list")
      (named : getStr call.params "session_id" = some id)
      (window : listed = resultIds ((getBool call.params "unread_only").getD false)
        ((getU64 call.params "limit").getD 50) ((before.inbox.get id).getD [])) :
      Effect call before
        (.ok (.array (((markRead listed ((before.inbox.get id).getD [])).filter
          fun message => message.messageId ∈ listed).map InboxMessage.toValue)),
        { before with
          inbox := before.inbox.insert id (markRead listed ((before.inbox.get id).getD [])) })
  /-- One message is handed out and marked as read. -/
  | fetches (id owner : String) (messages marked : List InboxMessage) (message : InboxMessage)
      (method : call.method = "inbox.read")
      (named : getStr call.params "message_id" = some id)
      (stored : before.inbox.get owner = some messages)
      (found : readFirst id messages = some (message, marked)) :
      Effect call before (.ok message.toValue,
        { before with inbox := before.inbox.insert owner marked })
  /-- Live state is published. -/
  | publishes (live : LiveState) (method : call.method = "state.set")
      (registered : before.sessions.containsKey live.sessionId = true) :
      Effect call before (.ok (.object [("ok", .bool true)]),
        { before with liveState := before.liveState.insert live.sessionId live })

private theorem sessionRegister_effect {call : Call} (before : AppStateInner)
    (method : call.method = "session.register") :
    Effect call before ((handleSessionRegister call.env call.params).exec before) := by
  simp only [handleSessionRegister, Handler.exec_check_bind, Handler.exec_get_bind]
  split
  next pid _ =>
    split
    next existingId indexed =>
      split
      next existing stored => exact .refreshes existingId existing _ (Or.inl method) stored
      next missing =>
        refine .registers ⟨_, _, pid.toUInt32, _, _, _, _⟩ method rfl fun id found => ?_
        obtain rfl := Option.some.inj (indexed.symm.trans found)
        exact missing
    next unindexed =>
      refine .registers ⟨_, _, pid.toUInt32, _, _, _, _⟩ method rfl fun id found => ?_
      exact absurd (unindexed.symm.trans found) (by simp)
  next => exact .fails _

private theorem sessionDeregister_effect {call : Call} (before : AppStateInner)
    (method : call.method = "session.deregister") :
    Effect call before ((handleSessionDeregister call.params).exec before) := by
  simp only [handleSessionDeregister, Handler.exec_check_bind, Handler.exec_get_bind]
  split
  next id named =>
    split
    next session stored => exact .deregisters id session method (requiredStr_eq_ok.mp named) stored
    next unknown => exact .forgets id method (requiredStr_eq_ok.mp named) unknown
  next => exact .fails _

private theorem sessionHeartbeat_effect {call : Call} (before : AppStateInner)
    (method : call.method = "session.heartbeat") :
    Effect call before ((handleSessionHeartbeat call.env call.params).exec before) := by
  simp only [handleSessionHeartbeat, Handler.exec_check_bind, Handler.exec_get_bind]
  split
  next id _ =>
    split
    next session stored => exact .refreshes id session _ (Or.inr method) stored
    next => exact .fails _
  next => exact .fails _

private theorem sessionGet_effect {call : Call} (before : AppStateInner)
    (method : call.method = "session.get") :
    Effect call before ((handleSessionGet call.params).exec before) := by
  simp only [handleSessionGet, Handler.exec_check_bind, Handler.exec_get_bind]
  split
  next =>
    split
    · exact .answers _ (by simp [method, queryMethods])
    · exact .fails _
  next => exact .fails _

private theorem stateGet_effect {call : Call} (before : AppStateInner)
    (method : call.method = "state.get") :
    Effect call before ((handleStateGet call.params).exec before) := by
  simp only [handleStateGet, Handler.exec_check_bind, Handler.exec_get_bind]
  split
  next =>
    split
    · exact .answers _ (by simp [method, queryMethods])
    · exact .fails _
  next => exact .fails _

/-- A claim passes its checks, finds its session registered, and is stored. -/
theorem exec_reservationClaim (env : Env) (payload : Value) (before : AppStateInner) :
    (handleReservationClaim env payload).exec before =
      match claimOf env payload with
      | .error failure => (.error failure, before)
      | .ok claim =>
          if before.sessions.containsKey claim.sessionId then
            (.ok (claim.reply env before),
              { before with
                reservations := before.reservations.insert env.mintReservationId
                  (claim.reservation env) })
          else (.error (.error (.notFound s!"session {claim.sessionId}")), before) := by
  simp only [handleReservationClaim, Handler.exec_check_bind, Handler.exec_lift_bind,
    exec_requireSession_bind, claimOf]
  cases requiredStr payload "session_id" with
  | error => rfl
  | ok sessionId =>
      cases required "path" (getPath payload "path") with
      | error => rfl
      | ok path =>
          cases parseReservationMode ((getStr payload "mode").getD "write") with
          | error => rfl
          | ok mode => cases expiry env.now ((getU64 payload "ttl_sec").getD 600) <;> rfl

private theorem reservationClaim_effect {call : Call} (before : AppStateInner)
    (method : call.method = "reservation.claim") :
    Effect call before ((handleReservationClaim call.env call.params).exec before) := by
  rw [exec_reservationClaim]
  split
  next => exact .fails _
  next claim parsed =>
    split
    next registered => exact .claims claim method parsed registered
    next => exact .fails _

private theorem reservationRelease_effect {call : Call} (before : AppStateInner)
    (method : call.method = "reservation.release") :
    Effect call before ((handleReservationRelease call.params).exec before) := by
  simp only [handleReservationRelease, Handler.exec_check_bind, Handler.exec_get_bind,
    Handler.exec_set_bind]
  split
  next id _ =>
    split
    next unknown =>
      -- Nothing was stored under the id, so the removal in front of the check changed nothing.
      rw [Handler.exec_throw, HashMap.remove_of_get_none unknown]
      exact .fails _
    next stored => exact .releases id method (HashMap.containsKey_iff.mpr ⟨_, stored⟩)
  next => exact .fails _

private theorem inboxPost_effect {call : Call} (before : AppStateInner)
    (method : call.method = "inbox.post") :
    Effect call before ((handleInboxPost call.env call.params).exec before) := by
  simp only [handleInboxPost, Handler.exec_check_bind, exec_requireSession_bind,
    Handler.exec_get_bind, Handler.exec_set_bind]
  split
  next =>
    split
    next recipient addressed =>
      split
      next =>
        split
        next sender =>
          exact .posts ⟨_, _, recipient, _, _, _, _, _⟩ method rfl rfl
            (requiredStr_eq_ok.mp addressed) sender
        next => exact .fails _
      next => exact .fails _
    next => exact .fails _
  next => exact .fails _

private theorem inboxList_effect {call : Call} (before : AppStateInner)
    (method : call.method = "inbox.list") :
    Effect call before ((handleInboxList call.params).exec before) := by
  simp only [handleInboxList, Handler.exec_check_bind, Handler.exec_get_bind, Handler.exec_set_bind]
  split
  next id named => exact .lists id _ method (requiredStr_eq_ok.mp named) rfl
  next => exact .fails _

private theorem inboxRead_effect {call : Call} (before : AppStateInner)
    (method : call.method = "inbox.read") :
    Effect call before ((handleInboxRead call.env call.params).exec before) := by
  simp only [handleInboxRead, Handler.exec_check_bind, Handler.exec_get_bind]
  split
  next id named =>
    split
    next owner message marked found =>
      obtain ⟨⟨owner, messages⟩, visited, here⟩ := List.exists_of_findSome?_eq_some found
      obtain ⟨⟨message, marked⟩, found_here, same⟩ := Option.map_eq_some_iff.mp here
      cases same
      exact .fetches id owner messages marked message method (requiredStr_eq_ok.mp named)
        (HashMap.mem_entries.mp (IterOrder.mem_arrange.mp visited)) found_here
    next => exact .fails _
  next => exact .fails _

private theorem stateSet_effect {call : Call} (before : AppStateInner)
    (method : call.method = "state.set") :
    Effect call before ((handleStateSet call.env call.params).exec before) := by
  simp only [handleStateSet, Handler.exec_check_bind, exec_requireSession_bind,
    Handler.exec_get_bind, Handler.exec_set_bind]
  split
  next id _ =>
    split
    next =>
      split
      next registered => exact .publishes ⟨id, _, _, _, _, _⟩ method registered
      next => exact .fails _
    next => exact .fails _
  next => exact .fails _

/-- Every call has one of the listed effects. -/
theorem daemon_effect (call : Call) (before : AppStateInner) :
    Effect call before (daemon.step before call) := by
  change Effect call before ((dispatch call.method call.params call.env).exec before)
  unfold dispatch
  split
  next method => exact sessionRegister_effect before method
  next method => exact sessionDeregister_effect before method
  next method => exact sessionHeartbeat_effect before method
  next method => exact .answers _ (by simp [method, queryMethods])
  next method => exact sessionGet_effect before method
  next method => exact reservationClaim_effect before method
  next method => exact reservationRelease_effect before method
  next method => exact .answers _ (by simp [method, queryMethods])
  next method => exact inboxPost_effect before method
  next method => exact inboxList_effect before method
  next method => exact inboxRead_effect before method
  next method => exact stateSet_effect before method
  next method => exact stateGet_effect before method
  next method => exact .answers _ (by simp [method, queryMethods])
  next => exact .fails _

/-! ## Calls which succeed -/

theorem step_deregister {call : Call} {before : AppStateInner} {id : String} {session : Session}
    (method : call.method = "session.deregister")
    (named : getStr call.params "session_id" = some id)
    (stored : before.sessions.get id = some session) :
    daemon.step before call = (.ok (.object [("ok", .bool true)]),
      { before with
        sessions := before.sessions.remove id
        sessionsByPid := before.sessionsByPid.remove session.pid }) := by
  change (dispatch call.method call.params call.env).exec before = _
  simp only [method, dispatch, handleSessionDeregister, Handler.exec_check_bind,
    requiredStr_eq_ok.mpr named, Handler.exec_get_bind, stored, Handler.exec_set_bind,
    Handler.exec_pure]

/-- `inbox.list` on a named session always succeeds. -/
theorem step_inboxList {call : Call} {before : AppStateInner} {id : String}
    (method : call.method = "inbox.list") (named : getStr call.params "session_id" = some id) :
    ∃ listed, listed = resultIds ((getBool call.params "unread_only").getD false)
        ((getU64 call.params "limit").getD 50) ((before.inbox.get id).getD []) ∧
      daemon.step before call =
        (.ok (.array (((markRead listed ((before.inbox.get id).getD [])).filter
          fun message => message.messageId ∈ listed).map InboxMessage.toValue)),
        { before with
          inbox := before.inbox.insert id (markRead listed ((before.inbox.get id).getD [])) }) := by
  refine ⟨_, rfl, ?_⟩
  change (dispatch call.method call.params call.env).exec before = _
  simp only [method, dispatch, handleInboxList, Handler.exec_check_bind,
    requiredStr_eq_ok.mpr named, Handler.exec_get_bind, Handler.exec_set_bind, Handler.exec_pure]

/-- `reservation.list` answers with stored, unexpired reservations only. -/
theorem step_reservationList (params : Value) (env : Env) (before : AppStateInner) :
    ∃ listed : List Reservation,
      daemon.step before ⟨"reservation.list", params, env⟩ =
        (.ok (.array (listed.map Reservation.toValue)), before) ∧
      ∀ reservation ∈ listed, reservation ∈ before.reservations.values ∧
        env.now < reservation.expiresAt := by
  have unexpired : ∀ reservation ∈ (env.order.arrange before.reservations.values).filter
      (fun reservation => decide (env.now < reservation.expiresAt)),
      reservation ∈ before.reservations.values ∧ env.now < reservation.expiresAt := by
    intro reservation member
    simpa using member
  refine ⟨_, rfl, ?_⟩
  dsimp only
  split
  · exact unexpired
  · exact fun reservation member => unexpired reservation (List.mem_filter.mp member).1

theorem step_stateGet_missing {params : Value} {env : Env} {before : AppStateInner} {id : String}
    (named : getStr params "session_id" = some id) (missing : before.liveState.get id = none) :
    daemon.step before ⟨"state.get", params, env⟩ =
      (.error (.error (.notFound s!"live state for session {id}")), before) := by
  change (handleStateGet params).exec before = _
  simp only [handleStateGet, Handler.exec_check_bind, requiredStr_eq_ok.mpr named,
    Handler.exec_get_bind, missing, Handler.exec_throw]

theorem step_claim {call : Call} {before : AppStateInner} {claim : Claim}
    (method : call.method = "reservation.claim")
    (parsed : claimOf call.env call.params = .ok claim)
    (registered : before.sessions.containsKey claim.sessionId = true) :
    daemon.step before call = (.ok (claim.reply call.env before),
      { before with
        reservations := before.reservations.insert call.env.mintReservationId
          (claim.reservation call.env) }) := by
  change (dispatch call.method call.params call.env).exec before = _
  simp only [method, dispatch, exec_reservationClaim, parsed, registered, if_true]

theorem step_release {call : Call} {before : AppStateInner} {id : String}
    (method : call.method = "reservation.release")
    (named : getStr call.params "reservation_id" = some id) :
    daemon.step before call =
      (if before.reservations.containsKey id then .ok (.object [("ok", .bool true)])
        else .error (.error (.notFound s!"reservation {id}")),
      { before with reservations := before.reservations.remove id }) := by
  change (dispatch call.method call.params call.env).exec before = _
  simp only [method, dispatch, handleReservationRelease, Handler.exec_check_bind,
    requiredStr_eq_ok.mpr named, Handler.exec_get_bind, Handler.exec_set_bind]
  split
  next absent => simp [HashMap.containsKey, absent]
  next stored => simp [HashMap.containsKey, stored]

/-- Without a path filter `reservation.list` answers with every unexpired reservation. -/
theorem step_reservationList_unfiltered {params : Value} {env : Env} {before : AppStateInner}
    (unfiltered : getPath params "path" = none) :
    daemon.step before ⟨"reservation.list", params, env⟩ =
      (.ok (.array (((env.order.arrange before.reservations.values).filter fun reservation =>
        decide (env.now < reservation.expiresAt)).map Reservation.toValue)), before) := by
  change (handleReservationList env params).exec before = _
  simp only [handleReservationList, Handler.exec_get_bind, unfiltered, Handler.exec_pure]

/-- A claim which is answered passed its checks. -/
theorem claim_of_answered {call : Call} {before : AppStateInner} {reply : Value}
    (method : call.method = "reservation.claim")
    (answered : (daemon.step before call).1 = .ok reply) :
    ∃ claim, claimOf call.env call.params = .ok claim ∧
      before.sessions.containsKey claim.sessionId = true ∧ reply = claim.reply call.env before := by
  change ((dispatch call.method call.params call.env).exec before).1 = .ok reply at answered
  simp only [method, dispatch, exec_reservationClaim] at answered
  split at answered
  next => cases answered
  next claim parsed =>
    split at answered
    next registered => exact ⟨claim, parsed, registered, (Except.ok.inj answered).symm⟩
    next => cases answered

end Effects

end TeamComm
