import TeamComm.Cli.Commands

/-!
# CLI and daemon

Six of the eleven subcommands which talk to the daemon are read as they were meant.  The other five
name their session under a field no handler looks at, or ask for a method the daemon does not have.
-/

namespace TeamComm

open Json (Value)

/-- The mode an argument stands for. -/
def ModeArg.mode : ModeArg → ReservationMode
  | .read => .read
  | .write => .write
  | .exclusive => .exclusive

/-- The priority an argument stands for. -/
def PriorityArg.priority : PriorityArg → Priority
  | .low => .low
  | .normal => .normal
  | .high => .high

/-- An optional path argument is absent, or it is the path. -/
def pathArgument (argument : Option ArgPath) (path : Option PathBuf) : Prop :=
  argument = path.map ArgPath.text

namespace CliCommand

/-- A request asks for what the arguments of a subcommand say. -/
def Means : CliCommand → Request → Prop
  | sessionsShow sessionId, request => request = .sessionGet sessionId
  | reservationsLs path, request =>
      ∃ inner, pathArgument path inner ∧ request = .reservationList inner
  | reservationsClaim path session mode ttlSec, request =>
      ∃ inner, path = .text inner ∧ request = .reservationClaim session inner mode.mode ttlSec
  | reservationsRelease reservationId, request => request = .reservationRelease reservationId
  | inboxList session unread limit, request =>
      request = .inboxList session unread limit.toUInt64
  | inboxRead messageId, request => request = .inboxRead messageId
  | inboxPost fromSession toSession subject body priority, request =>
      request = .inboxPost fromSession toSession subject body priority.priority
  | stateShow session, request => ∃ id, session = some id ∧ request = .stateGet id
  | stateSetFocus file session, request =>
      ∃ inner id branch worktree status, file = .text inner ∧ session = some id ∧
        request = .stateSet id (some inner) branch worktree status
  | stateSetStatus text session, request =>
      ∃ id file branch worktree status, session = some id ∧ parseAgentStatus text = .ok status ∧
        request = .stateSet id file branch worktree status
  | discoverAgents path branch capability, request =>
      ∃ inner, pathArgument path inner ∧ request = .discoverAgents inner branch capability

/-- The daemon reads what a subcommand sends as its arguments, and performs it. -/
def Agrees [Chrono] (command : CliCommand) : Prop :=
  ∃ sent request, command.sent = some sent ∧ command.Means request ∧
    Request.read sent.method sent.params = .ok request ∧
    ∀ env state, (dispatch sent.method sent.params env).exec state = request.perform env state

/-- The subcommands which daemon and CLI spell alike, their paths being UTF-8. -/
def Understood : CliCommand → Prop
  | sessionsShow _ | reservationsRelease _ | inboxRead _ | inboxPost .. => True
  | reservationsLs path | discoverAgents path _ _ => ∃ inner, pathArgument path inner
  | reservationsClaim .. | inboxList .. | stateShow _ | stateSetFocus .. | stateSetStatus .. =>
      False

section Reading

attribute [local simp] requiredStr required getStr getPath getU64 getBool Value.get_object
  Json.lookup_cons_eq_ite optionValue

theorem optionalPath_of_argument {argument : Option ArgPath} {path : Option PathBuf}
    (same : pathArgument argument path) :
    optionalPath argument = some (optionValue PathBuf.toValue path) := by
  obtain rfl := same
  cases path <;> rfl

theorem getPath_optionValue {params : Value} {field : String} {path : Option PathBuf}
    (found : params.get field = some (optionValue PathBuf.toValue path).doc) :
    getPath params field = path := by
  cases path <;> simp [found, PathBuf.toValue, Value.string, Value.null, Json.asStr]

theorem getStr_optionValue {params : Value} {field : String} {text : Option String}
    (found : params.get field = some (optionValue Value.string text).doc) :
    getStr params field = text := by
  cases text <;> simp [found, Value.string, Value.null, Json.asStr]

/-- What is understood is read as it is meant. -/
theorem read_of_understood {command : CliCommand} (understood : command.Understood) :
    ∃ sent request, command.sent = some sent ∧ command.Means request ∧
      Request.read sent.method sent.params = .ok request := by
  cases command with
  | sessionsShow sessionId =>
      exact ⟨_, .sessionGet sessionId, rfl, rfl, by simp [Request.read]⟩
  | reservationsLs path =>
      obtain ⟨inner, same⟩ := understood
      refine ⟨⟨"reservation.list", .object [("path", optionValue PathBuf.toValue inner)]⟩,
        .reservationList inner, ?_, ⟨inner, same, rfl⟩, ?_⟩
      · simp [sent, Cli.reservationsLs, optionalPath_of_argument same]
      · have path :
            getPath (.object [("path", optionValue PathBuf.toValue inner)]) "path" = inner :=
          getPath_optionValue (by simp)
        simp only [Request.read, path]
        rfl
  | reservationsRelease reservationId =>
      exact ⟨_, .reservationRelease reservationId, rfl, rfl, by simp [Request.read]⟩
  | inboxRead messageId => exact ⟨_, .inboxRead messageId, rfl, rfl, by simp [Request.read]⟩
  | inboxPost fromSession toSession subject body priority =>
      refine ⟨_, .inboxPost fromSession toSession subject body priority.priority, rfl, rfl, ?_⟩
      have parsed : parsePriority priority.priorityStr = .ok priority.priority := by
        cases priority <;> decide
      simp [Request.read, parsed]
      rfl
  | discoverAgents path branch capability =>
      obtain ⟨inner, same⟩ := understood
      let params : Value := .object [
        ("path", optionValue PathBuf.toValue inner),
        ("branch", optionValue .string branch),
        ("capabilities", .array (capability.map .string))]
      have path_read : getPath params "path" = inner := getPath_optionValue (by simp [params])
      have branch_read : getStr params "branch" = branch := getStr_optionValue (by simp [params])
      have capability_read : getStrings params "capabilities" = capability :=
        getStrings_array (by simp [params])
      refine ⟨⟨"discover.agents", params⟩, .discoverAgents inner branch capability, ?_,
        ⟨inner, same, rfl⟩, ?_⟩
      · simp [sent, Cli.discoverAgents, optionalPath_of_argument same, params]
      · simp only [Request.read, path_read, branch_read, capability_read]
        rfl
  | reservationsClaim | inboxList | stateShow | stateSetFocus | stateSetStatus =>
      exact absurd understood id

theorem argument_of_optionalPath {argument : Option ArgPath} {value : Value}
    (written : optionalPath argument = some value) : ∃ path, pathArgument argument path := by
  cases argument with
  | none => exact ⟨none, rfl⟩
  | some argument =>
      cases argument with
      | text path => exact ⟨some path, rfl⟩
      | bytes => cases written

/-- What is not understood is sent under a wrong name, if it is sent at all. -/
theorem understood_of_read {command : CliCommand} {sent : MethodCall} {request : Request}
    (sends : command.sent = some sent)
    (read : Request.read sent.method sent.params = .ok request) : command.Understood := by
  cases command with
  | sessionsShow | reservationsRelease | inboxRead | inboxPost => trivial
  | reservationsLs path =>
      obtain ⟨value, written, -⟩ := Option.bind_eq_some_iff.mp sends
      exact argument_of_optionalPath written
  | discoverAgents path =>
      obtain ⟨value, written, -⟩ := Option.bind_eq_some_iff.mp sends
      exact argument_of_optionalPath written
  | reservationsClaim path session mode ttlSec =>
      obtain ⟨value, -, same⟩ := Option.bind_eq_some_iff.mp sends
      obtain rfl := Option.some.inj same
      simp [Request.read] at read
      cases read
  | inboxList session unread limit =>
      obtain rfl := Option.some.inj sends
      simp [Request.read] at read
  | stateShow session =>
      obtain rfl := Option.some.inj sends
      simp [Request.read] at read
  | stateSetFocus file session =>
      obtain ⟨value, -, same⟩ := Option.bind_eq_some_iff.mp sends
      obtain rfl := Option.some.inj same
      simp [Request.read] at read
  | stateSetStatus status session =>
      obtain rfl := Option.some.inj sends
      simp [Request.read] at read

end Reading

/-- A subcommand means the same to the daemon exactly when it is one of those understood. -/
theorem agrees_iff [Chrono] (command : CliCommand) : command.Agrees ↔ command.Understood := by
  constructor
  · rintro ⟨sent, request, sends, -, read, -⟩
    exact understood_of_read sends read
  · intro understood
    obtain ⟨sent, request, sends, means, read⟩ := read_of_understood understood
    refine ⟨sent, request, sends, means, read, fun env state => ?_⟩
    rw [Request.exec_dispatch, read]
    rfl

section Claimed

attribute [local instance] Chrono.utc

/-- A claim on behalf of a session. -/
def claimCommand : CliCommand := .reservationsClaim (.text ⟨"/src/lib.rs"⟩) "sess_a" .write 600

theorem not_agrees_claimCommand : ¬claimCommand.Agrees := by
  rintro ⟨sent, request, sends, -, read, -⟩
  obtain rfl := Option.some.inj sends
  exact absurd read (by intro same; cases same)

end Claimed

end CliCommand

end TeamComm
