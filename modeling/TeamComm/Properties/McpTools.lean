import TeamComm.Client.Call
import TeamComm.Daemon.Listener
import TeamComm.Mcp.Manifest
import TeamComm.Mcp.Server

/-!
# Advertised MCP tools

The router knows each tool under another name than the manifest, so a call of an advertised tool is
answered with an error before the daemon is asked.
-/

namespace TeamComm

open Json (Value)

namespace Mcp

/-! ## Names -/

/-- The tool names which the router matches. -/
def routedToolNames : List String := [
  "teamcomm_session_register",
  "teamcomm_session_deregister",
  "teamcomm_session_list",
  "teamcomm_file_claim",
  "teamcomm_file_release",
  "teamcomm_file_list_claims",
  "teamcomm_inbox_post",
  "teamcomm_inbox_read",
  "teamcomm_announce_focus",
  "teamcomm_set_status",
  "teamcomm_discover_agents_for_path"]

theorem route_unrouted (host : Host) {tool : String} (args : Value)
    (unrouted : tool ∉ routedToolNames) :
    route host tool args = .error s!"unknown tool: {tool}" := by
  unfold route
  split
  case h_12 => rfl
  all_goals exact absurd (by decide) unrouted

theorem advertised_unrouted : ∀ tool ∈ advertisedTools, tool.name ∉ routedToolNames := by
  decide

/-! ## Calls -/

/-- The `tools/call` envelope of a tool and its arguments. -/
def toolsCall (id : Value) (tool : String) (args : Value) : Value :=
  .object [
    ("jsonrpc", .string "2.0"),
    ("id", id),
    ("method", .string "tools/call"),
    ("params", .object [("name", .string tool), ("arguments", args)])]

theorem dispatchToolCall_toolsCall (host : Host) (id : Value) (tool : String) (args : Value) :
    dispatchToolCall host (toolsCall id tool args) =
      match route host tool args with
      | .ok result => .ok (resultEnvelope id result)
      | .error error => .ok (errorEnvelope id (-32000) error) := by
  have method : ((toolsCall id tool args).get "method").bind Json.asStr = some "tools/call" := by
    simp [toolsCall, Value.get_object, Json.lookup_cons_eq_ite]
  have named : (toolsCall id tool args).getOrNull "id" = id := by
    simp [toolsCall, Value.getOrNull, Value.get_object, Json.lookup_cons_eq_ite]
  have params : (toolsCall id tool args).getOrNull "params" =
      .object [("name", .string tool), ("arguments", args)] := by
    simp [toolsCall, Value.getOrNull, Value.get_object]
  have name : ((Value.object [("name", .string tool), ("arguments", args)]).get "name").bind
      Json.asStr = some tool := by
    simp [Value.get_object, Json.lookup_cons_eq_ite]
  have arguments : (Value.object [("name", .string tool), ("arguments", args)]).getOrNull
      "arguments" = args := by
    simp [Value.getOrNull, Value.get_object]
  cases routed : route host tool args with
  | ok result => simp [dispatchToolCall, method, named, params, name, arguments, routed]
  | error error => simp [dispatchToolCall, method, named, params, name, arguments, routed]

theorem resultEnvelope_ne_errorEnvelope (id result : Value) (code : Int32) (message : String) :
    resultEnvelope id result ≠ errorEnvelope id code message := by
  intro same
  have found : (resultEnvelope id result).get "result" = some result.doc := by
    simp [resultEnvelope, Value.get_object]
  have missing : (errorEnvelope id code message).get "result" = none := by
    simp [errorEnvelope, Value.get_object, Json.lookup_cons_eq_ite]
  rw [same, missing] at found
  cases found

/-- A call of an advertised tool never gets through to its handler. -/
theorem dispatchToolCall_advertised (host : Host) {tool : ToolDef} (id args : Value)
    (advertised : tool ∈ advertisedTools) :
    dispatchToolCall host (toolsCall id tool.name args) =
      .ok (errorEnvelope id (-32000) s!"unknown tool: {tool.name}") := by
  rw [dispatchToolCall_toolsCall, route_unrouted host args (advertised_unrouted tool advertised)]

/-- A call of a tool is answered with a result. -/
def Works (host : Host) (tool : ToolDef) (id args : Value) : Prop :=
  ∃ result, dispatchToolCall host (toolsCall id tool.name args) = .ok (resultEnvelope id result)

/-- The sessions and the reservation which arguments name exist. -/
structure NamesExist (state : AppStateInner) (args : Value) : Prop where
  session : ∀ id, optStr args "session_id" = some id → (state.sessions.get id).isSome
  recipient : ∀ id, optStr args "to" = some id → (state.sessions.get id).isSome
  reservation : ∀ id, optStr args "reservation_id" = some id → (state.reservations.get id).isSome

section Daemon

variable [Chrono]

/-- A host whose client is connected to a daemon in a state. -/
def bridge (processId : UInt32) (env : Env) (state : AppStateInner) : Host where
  processId
  connect := .ok ⟨⟩
  call call :=
    let outcome : Except ClientError Value :=
      match ((dispatch call.method call.params env).exec state).1 with
      | .ok result => Client.readReply (Listener.successEnvelope (.number 1) result)
      | .error (.error error) => Client.readReply (Listener.errorEnvelope (.number 1) error)
      | .error (.panic _) => .error .closed
    outcome.mapError ClientError.display

/-- Every advertised tool works with arguments which satisfy its schema and name what exists. -/
def AdvertisedToolsWork : Prop :=
  ∀ calls, FreshIds calls → ∀ tool ∈ advertisedTools, ∀ args, tool.params.admits args = true →
    NamesExist (daemon.run newState calls) args →
    ∀ processId env id, Works (bridge processId env (daemon.run newState calls)) tool id args

end Daemon

/-- No advertised tool works, whatever the arguments, and whatever the daemon would answer. -/
theorem not_works_of_advertised {host : Host} {tool : ToolDef} (advertised : tool ∈ advertisedTools)
    (id args : Value) : ¬Works host tool id args := by
  rintro ⟨result, answered⟩
  rw [dispatchToolCall_advertised host id args advertised] at answered
  exact resultEnvelope_ne_errorEnvelope _ _ _ _ (Except.ok.inj answered).symm

section Listing

attribute [local instance] Chrono.utc

/-- The tool which lists sessions. -/
def listSessionsTool : ToolDef where
  name := "list_sessions"
  params.properties := [("role", { type := .string }), ("focus_contains", { type := .string })]

theorem listSessionsTool_advertised : listSessionsTool ∈ advertisedTools :=
  .tail _ (.tail _ (.head _))

theorem not_works_of_advertised_listSessions :
    ¬Works (bridge 7 (.ofSeconds 0 "a") newState) listSessionsTool (.u64 1) (.object []) :=
  not_works_of_advertised listSessionsTool_advertised _ _

theorem not_advertisedToolsWork : ¬AdvertisedToolsWork := by
  intro works
  have names : NamesExist newState (.object []) := by
    constructor <;> simp [optStr, Value.get_object]
  obtain ⟨result, answered⟩ := works [] List.nodup_nil listSessionsTool listSessionsTool_advertised
    (.object []) (by decide) names 7 (.ofSeconds 0 "a") (.u64 1)
  rw [dispatchToolCall_advertised _ _ _ listSessionsTool_advertised] at answered
  exact resultEnvelope_ne_errorEnvelope _ _ _ _ (Except.ok.inj answered).symm

end Listing

end Mcp

end TeamComm
