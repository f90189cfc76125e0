import Mathlib.Data.Set.Basic
import TeamComm.Daemon.Request

/-!
# Discovery filters

`discover.agents` runs down the sessions once and tests all filters in turn.  What it returns is the
intersection of what each filter returns alone, so filters only narrow the answer, and it does not
matter in which order or how often a capability is named.
-/

namespace TeamComm

open Json (Value)

/-! ## Queries -/

/-- A call asks a discovery query. -/
def Asks (call : Call) (query : DiscoveryQuery) : Prop :=
  Request.read call.method call.params =
    .ok (.discoverAgents query.path query.branch query.capabilities)

/-- A discovery query as the protocol sends it. -/
def DiscoveryQuery.call (query : DiscoveryQuery) (env : Env) : Call :=
  ⟨"discover.agents", query.toValue, env⟩

theorem asks_call (query : DiscoveryQuery) (env : Env) : Asks (query.call env) query := by
  have path : getPath query.toValue "path" = query.path := by
    cases given : query.path <;>
      simp [getPath, getStr, DiscoveryQuery.toValue, Value.get_object, Json.lookup_cons_eq_ite,
        given, optionValue, PathBuf.toValue, Value.string, Value.null, Json.asStr]
  have branch : getStr query.toValue "branch" = query.branch := by
    cases given : query.branch <;>
      simp [getStr, DiscoveryQuery.toValue, Value.get_object, Json.lookup_cons_eq_ite, given,
        optionValue, Value.string, Value.null, Json.asStr]
  have capabilities : getStrings query.toValue "capabilities" = query.capabilities := by
    apply getStrings_array
    simp [DiscoveryQuery.toValue, Value.get_object]
  change Request.read "discover.agents" query.toValue = _
  rw [Request.read, path, branch, capabilities]
  rfl

/-- A query asks for no less than another one. -/
structure DiscoveryQuery.Narrows (query wider : DiscoveryQuery) : Prop where
  path : wider.path = none ∨ wider.path = query.path
  branch : wider.branch = none ∨ wider.branch = query.branch
  capabilities : wider.capabilities ⊆ query.capabilities

/-! ## Filters one by one -/

/-- All filters pass when each of them passes alone. -/
theorem discovered_iff {path : Option PathBuf} {branch : Option String} {capabilities : List String}
    {session : Session} {live : Option LiveState} :
    discovered path branch capabilities session live = true ↔
      discovered path none [] session live = true ∧ discovered none branch [] session live = true ∧
      ∀ capability ∈ capabilities, discovered none none [capability] session live = true := by
  simp [discovered, and_assoc]

theorem discovered_unfiltered (session : Session) (live : Option LiveState) :
    discovered none none [] session live = true := by
  simp [discovered]

theorem discovered_of_narrows {query wider : DiscoveryQuery} (narrows : query.Narrows wider)
    {session : Session} {live : Option LiveState}
    (passes : discovered query.path query.branch query.capabilities session live = true) :
    discovered wider.path wider.branch wider.capabilities session live = true := by
  rw [discovered_iff] at passes ⊢
  refine ⟨?_, ?_, fun capability member => passes.2.2 capability (narrows.capabilities member)⟩
  · rcases narrows.path with none | same
    · rw [none]
      exact discovered_unfiltered session live
    · rw [same]
      exact passes.1
  · rcases narrows.branch with none | same
    · rw [none]
      exact discovered_unfiltered session live
    · rw [same]
      exact passes.2.1

/-! ## Answers -/

/-- What a query tells of a session. -/
def summaryOf (state : AppStateInner) (id : String) (session : Session) : SessionSummary where
  sessionId := id
  agentType := session.agentType
  pid := session.pid
  status := ((state.liveState.get id).map LiveState.status).getD .idle
  focusFile := (state.liveState.get id).bind LiveState.focusFile
  lastHeartbeat := session.lastHeartbeat

/-- Whether a session passes all filters of a query. -/
def admits (state : AppStateInner) (query : DiscoveryQuery) (id : String) (session : Session) :
    Bool :=
  discovered query.path query.branch query.capabilities session (state.liveState.get id)

/-- The summaries a query returns. -/
def summaries (env : Env) (state : AppStateInner) (query : DiscoveryQuery) : List SessionSummary :=
  ((env.order.arrange state.sessions.entries).filter fun entry =>
    admits state query entry.1 entry.2).map fun entry => summaryOf state entry.1 entry.2

theorem summaries_eq_filterMap (env : Env) (state : AppStateInner) (query : DiscoveryQuery) :
    summaries env state query = (env.order.arrange state.sessions.entries).filterMap fun entry =>
      if admits state query entry.1 entry.2 then some (summaryOf state entry.1 entry.2)
      else none := by
  rw [summaries, ← List.filterMap_eq_map', List.filterMap_filter]

theorem mem_summaries {env : Env} {state : AppStateInner} {query : DiscoveryQuery}
    {summary : SessionSummary} :
    summary ∈ summaries env state query ↔ ∃ id session, state.sessions.get id = some session ∧
      admits state query id session = true ∧ summary = summaryOf state id session := by
  rw [summaries, List.mem_map]
  constructor
  · rintro ⟨⟨id, session⟩, member, rfl⟩
    rw [List.mem_filter, IterOrder.mem_arrange, HashMap.mem_entries] at member
    exact ⟨id, session, member.1, member.2, rfl⟩
  · rintro ⟨id, session, stored, passes, rfl⟩
    refine ⟨⟨id, session⟩, List.mem_filter.mpr ⟨?_, passes⟩, rfl⟩
    exact IterOrder.mem_arrange.mpr (HashMap.mem_entries.mpr stored)

/-- Every session is summed up at most once. -/
theorem summaries_nodup (env : Env) (state : AppStateInner) (query : DiscoveryQuery) :
    ((summaries env state query).map SessionSummary.sessionId).Nodup := by
  have distinct : ((env.order.arrange state.sessions.entries).map Sigma.fst).Nodup := by
    rw [((env.order.perm _).map Sigma.fst).nodup_iff]
    exact state.sessions.nodupKeys
  rw [summaries, List.map_map]
  exact distinct.sublist (List.filter_sublist.map _)

section Answers

variable [Chrono] {state : AppStateInner} {call : Call} {query : DiscoveryQuery}

theorem step_of_asks (asks : Asks call query) :
    daemon.step state call =
      (.ok (.array ((summaries call.env state query).map SessionSummary.toValue)), state) := by
  rw [Request.step_of_read state asks, Request.perform, summaries_eq_filterMap]
  rfl

/-- The items of the array a call answers with. -/
def returned (state : AppStateInner) (call : Call) : Set Json :=
  {item | ∃ reply items, (daemon.step state call).1 = .ok reply ∧ reply.doc.asArray = some items ∧
    item ∈ items}

theorem mem_returned (asks : Asks call query) {item : Json} :
    item ∈ returned state call ↔ ∃ id session, state.sessions.get id = some session ∧
      admits state query id session = true ∧
      item = (summaryOf state id session).toValue.doc := by
  have answered : item ∈ returned state call ↔
      ∃ summary ∈ summaries call.env state query, summary.toValue.doc = item := by
    have step := @step_of_asks _ state call query asks
    constructor
    · rintro ⟨reply, items, answered, read, member⟩
      rw [step] at answered
      obtain rfl := Except.ok.inj answered
      obtain rfl := Option.some.inj read
      simpa [Value.array, Function.comp_def] using member
    · rintro ⟨summary, member, rfl⟩
      refine ⟨_, _, congrArg Prod.fst step, rfl, ?_⟩
      exact List.mem_map_of_mem (List.mem_map_of_mem member)
  rw [answered]
  constructor
  · rintro ⟨summary, member, rfl⟩
    obtain ⟨id, session, stored, passes, rfl⟩ := mem_summaries.mp member
    exact ⟨id, session, stored, passes, rfl⟩
  · rintro ⟨id, session, stored, passes, rfl⟩
    exact ⟨_, mem_summaries.mpr ⟨id, session, stored, passes, rfl⟩, rfl⟩

theorem sessionId_summary (summary : SessionSummary) :
    summary.toValue.get "session_id" = some (.string summary.sessionId) := by
  simp [SessionSummary.toValue, Value.get_object, Json.lookup_cons_eq_ite, Value.string]

/-- An item tells of one session only. -/
theorem summary_determines {id other : String} {session another : Session}
    (found : state.sessions.get id = some session)
    (other_found : state.sessions.get other = some another)
    (same : (summaryOf state id session).toValue.doc =
      (summaryOf state other another).toValue.doc) :
    id = other ∧ session = another := by
  have same_id : id = other := by
    have read := sessionId_summary (summaryOf state id session)
    rw [Value.get, same, ← Value.get, sessionId_summary] at read
    exact (Json.string.inj (Option.some.inj read)).symm
  subst same_id
  exact ⟨rfl, Option.some.inj (found.symm.trans other_found)⟩

/-- An item which a query returns for a stored session. -/
theorem summary_mem_returned (asks : Asks call query) {id : String} {session : Session}
    (found : state.sessions.get id = some session) :
    (summaryOf state id session).toValue.doc ∈ returned state call ↔
      admits state query id session = true := by
  rw [mem_returned asks]
  constructor
  · rintro ⟨other, another, other_found, passes, same⟩
    obtain ⟨rfl, rfl⟩ := summary_determines found other_found same
    exact passes
  · exact fun passes => ⟨id, session, found, passes, rfl⟩

/-- Filters only narrow an answer. -/
theorem returned_subset {other : Call} {wider : DiscoveryQuery} (asks : Asks call query)
    (other_asks : Asks other wider) (narrows : query.Narrows wider) :
    returned state call ⊆ returned state other := by
  intro item member
  obtain ⟨id, session, found, passes, rfl⟩ := (mem_returned asks).mp member
  exact (summary_mem_returned other_asks found).mpr (discovered_of_narrows narrows passes)

/-- What a query returns passes each of its filters alone, and conversely. -/
theorem mem_returned_iff (asks : Asks call query) (env : Env) {item : Json} :
    item ∈ returned state call ↔
      item ∈ returned state (DiscoveryQuery.call { path := query.path } env) ∧
      item ∈ returned state (DiscoveryQuery.call { branch := query.branch } env) ∧
      ∀ capability ∈ query.capabilities,
        item ∈ returned state (DiscoveryQuery.call { capabilities := [capability] } env) := by
  have path_asks := asks_call { path := query.path } env
  have branch_asks := asks_call { branch := query.branch } env
  constructor
  · intro member
    refine ⟨returned_subset asks path_asks ⟨Or.inr rfl, Or.inl rfl, List.nil_subset _⟩ member,
      returned_subset asks branch_asks ⟨Or.inl rfl, Or.inr rfl, List.nil_subset _⟩ member, ?_⟩
    intro capability declared
    have capability_asks := asks_call { capabilities := [capability] } env
    exact returned_subset asks capability_asks
      ⟨Or.inl rfl, Or.inl rfl, List.cons_subset.mpr ⟨declared, List.nil_subset _⟩⟩ member
  · rintro ⟨member, by_branch, by_capability⟩
    obtain ⟨id, session, found, by_path, rfl⟩ := (mem_returned path_asks).mp member
    rw [summary_mem_returned branch_asks found] at by_branch
    rw [summary_mem_returned asks found, admits, discovered_iff]
    refine ⟨by_path, by_branch, fun capability declared => ?_⟩
    have capability_asks := asks_call { capabilities := [capability] } env
    exact (summary_mem_returned capability_asks found).mp (by_capability capability declared)

/-- Discovery filters compose by intersection: an answer is what the path, the branch and each
capability return alone.  Without a filter all sessions are returned, each once, so filters only
narrow the answer, and naming capabilities in another order or again changes nothing.  A summary
tells of its session and of the live state, if any. -/
theorem discovery_intersection (state : AppStateInner) {call : Call} {query : DiscoveryQuery}
    (asks : Asks call query) (env : Env) :
    (∀ item, item ∈ returned state call ↔
      item ∈ returned state (DiscoveryQuery.call { path := query.path } env) ∧
      item ∈ returned state (DiscoveryQuery.call { branch := query.branch } env) ∧
      ∀ capability ∈ query.capabilities,
        item ∈ returned state (DiscoveryQuery.call { capabilities := [capability] } env)) ∧
    (∀ id session, state.sessions.get id = some session →
      (summaryOf state id session).toValue.doc ∈
        returned state (DiscoveryQuery.call {} env)) ∧
    (∃ listed : List SessionSummary,
      daemon.step state call = (.ok (.array (listed.map SessionSummary.toValue)), state) ∧
        (listed.map SessionSummary.sessionId).Nodup) ∧
    (∀ other wider, Asks other wider → query.Narrows wider →
      returned state call ⊆ returned state other) ∧
    (∀ other capabilities, Asks other { query with capabilities } →
      (∀ capability, capability ∈ capabilities ↔ capability ∈ query.capabilities) →
      returned state other = returned state call) ∧
    ∀ item ∈ returned state call, ∃ id session, state.sessions.get id = some session ∧
      item = (SessionSummary.toValue {
        sessionId := id
        agentType := session.agentType
        pid := session.pid
        status := ((state.liveState.get id).map LiveState.status).getD .idle
        focusFile := (state.liveState.get id).bind LiveState.focusFile
        lastHeartbeat := session.lastHeartbeat }).doc := by
  refine ⟨fun item => mem_returned_iff asks env, ?_,
    ⟨_, step_of_asks asks, summaries_nodup _ _ _⟩,
    fun other wider other_asks => returned_subset asks other_asks, ?_, ?_⟩
  · intro id session found
    have unfiltered_asks := asks_call {} env
    exact (summary_mem_returned unfiltered_asks found).mpr (discovered_unfiltered _ _)
  · intro other capabilities other_asks same
    apply Set.Subset.antisymm
    · exact returned_subset other_asks asks
        ⟨Or.inr rfl, Or.inr rfl, fun capability => (same capability).mpr⟩
    · exact returned_subset asks other_asks
        ⟨Or.inr rfl, Or.inr rfl, fun capability => (same capability).mp⟩
  · intro item member
    obtain ⟨id, session, found, -, rfl⟩ := (mem_returned asks).mp member
    exact ⟨id, session, found, rfl⟩

end Answers

section Example

attribute [local instance] Chrono.utc

/-- An agent registers with a capability and tells its branch. -/
def joins (pid : UInt64) (uuid capability branch : String) : List Call := [
  ⟨"session.register", .object [("pid", .u64 pid),
    ("capabilities", .array [.string capability])], .ofSeconds 0 uuid⟩,
  ⟨"state.set", .object [("session_id", .string ("sess_" ++ uuid)),
    ("focus_branch", .string branch)], .ofSeconds 1 uuid⟩]

/-- Two agents on the main branch, one of which can write Rust, and another one elsewhere. -/
def branchCalls : List Call :=
  joins 1 "a" "rust" "main" ++ joins 2 "b" "docs" "main" ++ joins 3 "c" "rust" "fix"

/-- Agents which can write Rust are looked for on the main branch. -/
def rustOnMain : DiscoveryQuery := { branch := some "main", capabilities := ["rust", "rust"] }

theorem discovery_intersection_rustOnMain :
    let state := daemon.run newState branchCalls
    let onMain := returned state (DiscoveryQuery.call { branch := some "main" } (.ofSeconds 2 "d"))
    (returned state (rustOnMain.call (.ofSeconds 2 "d"))).Nonempty ∧
      returned state (rustOnMain.call (.ofSeconds 2 "d")) ⊆ onMain ∧
      ¬onMain ⊆ returned state (rustOnMain.call (.ofSeconds 2 "d")) := by
  have asks := asks_call rustOnMain (.ofSeconds 2 "d")
  have narrows := (discovery_intersection (daemon.run newState branchCalls) asks
    (.ofSeconds 2 "d")).2.2.2.1 _ { branch := some "main" } (asks_call _ (.ofSeconds 2 "d"))
    ⟨Or.inl rfl, Or.inr rfl, List.nil_subset _⟩
  have inside : ((daemon.run newState branchCalls).sessions.get "sess_a").any
      (admits (daemon.run newState branchCalls) rustOnMain "sess_a") = true := by
    decide +kernel
  have outside : ((daemon.run newState branchCalls).sessions.get "sess_b").any (fun session =>
      admits (daemon.run newState branchCalls) { branch := some "main" } "sess_b" session &&
        !admits (daemon.run newState branchCalls) rustOnMain "sess_b" session) = true := by
    decide +kernel
  refine ⟨?_, narrows, fun contained => ?_⟩
  · obtain ⟨session, found, passes⟩ := (Option.any_eq_true ..).mp inside
    exact ⟨_, (summary_mem_returned asks found).mpr passes⟩
  · obtain ⟨session, found, passes⟩ := (Option.any_eq_true ..).mp outside
    rw [Bool.and_eq_true, Bool.not_eq_true'] at passes
    have member := contained ((summary_mem_returned (asks_call _ _) found).mpr passes.1)
    rw [summary_mem_returned asks found, passes.2] at member
    cases member

end Example

end TeamComm
