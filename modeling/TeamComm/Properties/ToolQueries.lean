import TeamComm.Properties.DiscoveryPath
import TeamComm.Properties.InboxDelivery
import TeamComm.Properties.ReservationSafety
import TeamComm.Properties.ToolStatus

/-!
# Queries through the tools

Three tools pass filters along which the daemon does not read: `list_claims` all of its filters,
`read_inbox` an instant, and `discover_agents_for_path` whether idle agents count.  What they return
fits the filters exactly when there is nothing to filter out.
-/

namespace TeamComm

open Json (Value)

/-! ## Reservations -/

/-- A reservation fits the filters among the arguments. -/
structure FitsClaim (args : Value) (reservation : Reservation) : Prop where
  /-- It is held by the session, if one is given. -/
  session : ∀ id, Mcp.optStr args "session_id" = some id → reservation.sessionId = id
  /-- Its path starts with the prefix, if one is given. -/
  path : ∀ front, Mcp.optStr args "path_prefix" = some front →
    startsWith reservation.path.inner front = true
  /-- It is of the mode, if one is given. -/
  mode : ∀ text, Mcp.optStr args "mode" = some text →
    parseReservationMode text = .ok reservation.mode

theorem ReservationMode.toValue_inj {left right : ReservationMode} :
    left.toValue.doc = right.toValue.doc ↔ left = right := by
  cases left <;> cases right <;> simp [toValue, Value.string]

section Queries

variable [Chrono] {state : AppStateInner} {args : Value} {sent : MethodCall} {env : Env}

/-- Whatever a call returns are reservations which fit. -/
def ReturnsFitting (state : AppStateInner) (call : Call) (args : Value) : Prop :=
  ∀ item ∈ returned state call, ∃ reservation : Reservation,
    reservation.toValue.doc = item ∧ FitsClaim args reservation

/-- Session, path and mode of a reservation can be read off its JSON value. -/
theorem fits_of_same_value {left right : Reservation}
    (same : left.toValue.doc = right.toValue.doc) (fits : FitsClaim args left) :
    FitsClaim args right := by
  have member {name : String} : left.toValue.get name = right.toValue.get name := by
    rw [Value.get, same, ← Value.get]
  have session : left.sessionId = right.sessionId := by
    have found := @member "session_id"
    simpa [Reservation.toValue, Value.get_object, Json.lookup_cons_eq_ite, Value.string] using found
  have path : left.path.inner = right.path.inner := by
    have found := @member "path"
    simpa [Reservation.toValue, Value.get_object, Json.lookup_cons_eq_ite, Value.string,
      PathBuf.toValue] using found
  have mode : left.mode = right.mode := by
    have found := @member "mode"
    simpa [Reservation.toValue, Value.get_object, Json.lookup_cons_eq_ite,
      ReservationMode.toValue_inj] using found
  exact ⟨fun id given => session ▸ fits.session id given,
    fun front given => path ▸ fits.path front given, fun text given => mode ▸ fits.mode text given⟩

theorem mem_returned_listClaims (sends : Mcp.Sends Mcp.listClaims args sent) {item : Json} :
    item ∈ returned state (sent.call env) ↔ ∃ id reservation,
      state.reservations.get id = some reservation ∧ env.now < reservation.expiresAt ∧
        item = reservation.toValue.doc := by
  have step : daemon.step state (sent.call env) = _ :=
    Request.step_of_read state (Mcp.read_listClaims sends)
  constructor
  · rintro ⟨reply, items, answered, read, member⟩
    rw [step] at answered
    obtain rfl := Except.ok.inj answered
    obtain rfl := Option.some.inj read
    obtain ⟨value, value_member, rfl⟩ := List.mem_map.mp member
    obtain ⟨reservation, listed, rfl⟩ := List.mem_map.mp value_member
    obtain ⟨arranged, unexpired⟩ := List.mem_filter.mp listed
    obtain ⟨id, stored⟩ := HashMap.mem_values.mp (IterOrder.mem_arrange.mp arranged)
    exact ⟨id, reservation, stored, of_decide_eq_true unexpired, rfl⟩
  · rintro ⟨id, reservation, stored, unexpired, rfl⟩
    refine ⟨_, _, congrArg Prod.fst step, rfl, List.mem_map_of_mem (List.mem_map_of_mem ?_)⟩
    refine List.mem_filter.mpr ⟨IterOrder.mem_arrange.mpr (HashMap.mem_values.mpr ⟨id, stored⟩), ?_⟩
    exact decide_eq_true unexpired

/-- Every unexpired reservation is returned. -/
theorem returnsFitting_iff (sends : Mcp.Sends Mcp.listClaims args sent) :
    ReturnsFitting state (sent.call env) args ↔ ∀ id reservation,
      state.reservations.get id = some reservation → env.now < reservation.expiresAt →
      FitsClaim args reservation := by
  constructor
  · intro fitting id reservation stored unexpired
    obtain ⟨other, same, fits⟩ := fitting _
      ((mem_returned_listClaims sends).mpr ⟨id, reservation, stored, unexpired, rfl⟩)
    exact fits_of_same_value same fits
  · intro fit item member
    obtain ⟨id, reservation, stored, unexpired, rfl⟩ := (mem_returned_listClaims sends).mp member
    exact ⟨reservation, rfl, fit id reservation stored unexpired⟩

/-! ## Messages -/

/-- Whatever messages of a session a call returns are later than an instant. -/
def ReturnsLater (state : AppStateInner) (call : Call) (sessionId : String) (instant : DateTime) :
    Prop :=
  ∀ message ∈ (state.inbox.get sessionId).getD [],
    message.messageId ∈ returnedIds (daemon.step state call).1 → instant < message.ts

/-- The messages of a session which the tool lists, whenever they were posted. -/
def firstMessages (state : AppStateInner) (sessionId : String) (limit : UInt64) :
    List InboxMessage :=
  ((state.inbox.get sessionId).getD []).take (if 0 < limit then limit.toNat else usizeMax)

theorem mem_returnedIds_readInbox {sessionId : String} {message : InboxMessage}
    (distinct : (((state.inbox.get sessionId).getD []).map InboxMessage.messageId).Nodup)
    (session : Mcp.requireStr args "session_id" = .ok sessionId)
    (sends : Mcp.Sends Mcp.readInbox args sent)
    (posted : message ∈ (state.inbox.get sessionId).getD []) :
    message.messageId ∈ returnedIds (daemon.step state (sent.call env)).1 ↔
      message ∈ firstMessages state sessionId ((Mcp.optU64 args "limit").getD 50) := by
  have step : daemon.step state (sent.call env) = _ :=
    Request.step_of_read state (Mcp.read_readInbox session sends)
  have listed : resultIds false ((Mcp.optU64 args "limit").getD 50)
      ((state.inbox.get sessionId).getD []) =
      (firstMessages state sessionId ((Mcp.optU64 args "limit").getD 50)).map
        InboxMessage.messageId := by
    simp [resultIds, firstMessages]
  rw [step, Request.perform, returnedIds, repliedIds_messages, listed]
  constructor
  · intro member
    obtain ⟨marked, marked_member, same⟩ := List.mem_map.mp member
    obtain ⟨other, other_member, other_same⟩ :=
      List.mem_map.mp (of_decide_eq_true (List.mem_filter.mp marked_member).2)
    have inside : other ∈ (state.inbox.get sessionId).getD [] := List.mem_of_mem_take other_member
    have same_id : other.messageId = message.messageId := other_same.trans same
    exact List.inj_on_of_nodup_map distinct inside posted same_id ▸ other_member
  · intro member
    have named : message.messageId ∈ (firstMessages state sessionId
        ((Mcp.optU64 args "limit").getD 50)).map InboxMessage.messageId :=
      List.mem_map_of_mem member
    refine List.mem_map.mpr ⟨{ message with read := true }, List.mem_filter.mpr ⟨?_, ?_⟩, rfl⟩
    · exact List.mem_map.mpr ⟨message, posted, if_pos named⟩
    · exact decide_eq_true named

/-- The first messages are returned. -/
theorem returnsLater_iff {sessionId : String} {instant : DateTime}
    (distinct : (((state.inbox.get sessionId).getD []).map InboxMessage.messageId).Nodup)
    (session : Mcp.requireStr args "session_id" = .ok sessionId)
    (sends : Mcp.Sends Mcp.readInbox args sent) :
    ReturnsLater state (sent.call env) sessionId instant ↔
      ∀ message ∈ firstMessages state sessionId ((Mcp.optU64 args "limit").getD 50),
        instant < message.ts := by
  constructor
  · intro later message member
    have posted : message ∈ (state.inbox.get sessionId).getD [] := List.mem_of_mem_take member
    exact later message posted
      ((mem_returnedIds_readInbox distinct session sends posted).mpr member)
  · intro later message posted returned
    exact later message ((mem_returnedIds_readInbox distinct session sends posted).mp returned)

/-! ## Agents -/

/-- Whatever a call returns are agents which are neither idle nor done. -/
def ReturnsActive (state : AppStateInner) (call : Call) : Prop :=
  ∀ item ∈ returned state call, ∀ status ∈ [AgentStatus.idle, AgentStatus.done],
    item.member "status" ≠ some (.string status.name)

theorem status_summary (summary : SessionSummary) :
    summary.toValue.doc.member "status" = some (.string summary.status.name) := by
  change summary.toValue.get "status" = _
  simp [SessionSummary.toValue, Value.get_object, Json.lookup_cons_eq_ite,
    AgentStatus.toValue_eq, Value.string]

/-- Every agent whose focus file starts with the path is returned. -/
theorem returnsActive_iff {path : String} (looked : Mcp.requireStr args "path" = .ok path)
    (sends : Mcp.Sends Mcp.discoverAgentsForPath args sent) :
    ReturnsActive state (sent.call env) ↔
      ∀ id session live focus, state.sessions.get id = some session →
        state.liveState.get id = some live → live.focusFile = some focus →
        startsWith focus.inner path = true → live.status ≠ .idle ∧ live.status ≠ .done := by
  have asks : Asks (sent.call env) { path := some ⟨path⟩ } :=
    Mcp.read_discoverAgentsForPath looked sends
  have summed (id : String) (session : Session) (live : LiveState)
      (stored : state.liveState.get id = some live) (status : AgentStatus) :
      (summaryOf state id session).toValue.doc.member "status" = some (.string status.name) ↔
        live.status = status := by
    simp [status_summary, summaryOf, stored, AgentStatus.name_inj]
  constructor
  · intro active id session live focus found stored focused starts
    have passes : admits state { path := some ⟨path⟩ } id session = true := by
      simpa [admits, discovered, stored, focused] using starts
    have member := (summary_mem_returned asks found).mpr passes
    exact ⟨fun same => active _ member .idle (by simp) ((summed id session live stored _).mpr same),
      fun same => active _ member .done (by simp) ((summed id session live stored _).mpr same)⟩
  · intro active item member status inactive told
    obtain ⟨id, session, found, passes, rfl⟩ := (mem_returned asks).mp member
    rw [admits, discovered] at passes
    cases stored : state.liveState.get id with
    | none => simp [stored] at passes
    | some live =>
        cases focused : live.focusFile with
        | none => simp [stored, focused] at passes
        | some focus =>
            have starts : startsWith focus.inner path = true := by
              simpa [stored, focused] using passes
            have same := (summed id session live stored status).mp told
            have neither := active id session live focus found stored focused starts
            rw [same] at neither
            simp only [List.mem_cons, List.not_mem_nil, or_false] at inactive
            exact inactive.elim neither.1 neither.2

/-! ## The three tools -/

/-- The queries of the tools return what fits their filters exactly when there is nothing which does
not fit: no other unexpired reservation, no earlier one among the first messages, and no agent at
work below the path which is idle or done. -/
theorem toolQueries_iff [Rfc3339] {calls : List Call} (fresh : FreshIds calls) :
    (∀ args sent env, Mcp.Sends Mcp.listClaims args sent →
      (ReturnsFitting (daemon.run newState calls) (sent.call env) args ↔
        ∀ id reservation, (daemon.run newState calls).reservations.get id = some reservation →
          env.now < reservation.expiresAt → FitsClaim args reservation)) ∧
    (∀ args sent env sessionId since instant, Mcp.requireStr args "session_id" = .ok sessionId →
      Mcp.optStr args "since" = some since → Rfc3339.parseFromRfc3339 since = .ok instant →
      Mcp.Sends Mcp.readInbox args sent →
      (ReturnsLater (daemon.run newState calls) (sent.call env) sessionId instant ↔
        ∀ message ∈ firstMessages (daemon.run newState calls) sessionId
          ((Mcp.optU64 args "limit").getD 50), instant < message.ts)) ∧
    ∀ args sent env path, Mcp.requireStr args "path" = .ok path →
      Mcp.optBool args "include_idle" ≠ some true →
      Mcp.Sends Mcp.discoverAgentsForPath args sent →
      (ReturnsActive (daemon.run newState calls) (sent.call env) ↔
        ∀ id session live focus, (daemon.run newState calls).sessions.get id = some session →
          (daemon.run newState calls).liveState.get id = some live →
          live.focusFile = some focus → startsWith focus.inner path = true →
          live.status ≠ .idle ∧ live.status ≠ .done) := by
  refine ⟨fun args sent env => returnsFitting_iff, ?_, fun args sent env path looked _ =>
    returnsActive_iff looked⟩
  intro args sent env sessionId since instant session _ _
  have distinct := (inboxIds_run fresh).distinct sessionId
  rw [mailbox, ids_slots] at distinct
  exact returnsLater_iff distinct session

end Queries

section Examples

attribute [local instance] Chrono.utc Rfc3339.utc

/-- The arguments of a list of claims below a path. -/
def belowArgs (front : String) : Value := .object [("path_prefix", .string front)]

/-- The reservation of the first of two agents. -/
def firstClaim : Reservation where
  reservationId := "resv_c"
  sessionId := "sess_a"
  path := ⟨"/src/lib.rs"⟩
  mode := .write
  acquiredAt := (Env.ofSeconds 2 "c").now
  expiresAt := (Env.ofSeconds 602 "c").now

theorem get_firstClaim {id : String} {reservation : Reservation} :
    (daemon.run newState (contestingCalls.take 3)).reservations.get id = some reservation ↔
      id = "resv_c" ∧ reservation = firstClaim := by
  have stored : (daemon.run newState (contestingCalls.take 3)).reservations =
      (newState.reservations.insert "resv_c" firstClaim) := rfl
  rw [stored, HashMap.get_insert]
  split
  next same => simp [same, eq_comm]
  next other => simp [other, newState]

theorem toolQueries_iff_src :
    ∃ sent, Mcp.Sends Mcp.listClaims (belowArgs "/src") sent ∧
      ReturnsFitting (daemon.run newState (contestingCalls.take 3)) (sent.call (.ofSeconds 3 "d"))
        (belowArgs "/src") := by
  have fresh : FreshIds (contestingCalls.take 3) := by decide
  refine ⟨_, Mcp.sends_listClaims, ?_⟩
  refine ((toolQueries_iff fresh).1 (belowArgs "/src") _ _ Mcp.sends_listClaims).mpr ?_
  intro id reservation stored _
  obtain ⟨-, rfl⟩ := get_firstClaim.mp stored
  constructor
  · intro id given
    cases given
  · intro front given
    obtain rfl : "/src" = front := Option.some.inj given
    decide
  · intro text given
    cases given

/-- A claim of `/src/lib.rs` is listed among those below `/docs`. -/
theorem not_toolQueries_docs :
    ¬∀ calls : List Call, FreshIds calls →
      (∀ args sent env, Mcp.Sends Mcp.listClaims args sent →
        ReturnsFitting (daemon.run newState calls) (sent.call env) args) ∧
      (∀ args sent env sessionId since instant, Mcp.requireStr args "session_id" = .ok sessionId →
        Mcp.optStr args "since" = some since → Rfc3339.parseFromRfc3339 since = .ok instant →
        Mcp.Sends Mcp.readInbox args sent →
        ReturnsLater (daemon.run newState calls) (sent.call env) sessionId instant) ∧
      ∀ args sent env path, Mcp.requireStr args "path" = .ok path →
        Mcp.optBool args "include_idle" ≠ some true →
        Mcp.Sends Mcp.discoverAgentsForPath args sent →
        ReturnsActive (daemon.run newState calls) (sent.call env) := by
  intro honoured
  have fitting := (honoured (contestingCalls.take 3) (by decide)).1 (belowArgs "/docs") _
    (.ofSeconds 3 "d") Mcp.sends_listClaims
  have fits := (returnsFitting_iff Mcp.sends_listClaims).mp fitting "resv_c" firstClaim
    (get_firstClaim.mpr ⟨rfl, rfl⟩) (by decide)
  have starts := fits.path "/docs" rfl
  revert starts
  decide

end Examples

end TeamComm
