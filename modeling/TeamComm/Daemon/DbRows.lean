import TeamComm.Library.JsonText
import TeamComm.Protocol.Types

/-!
# Rows of the store

What the columns of the sessions, reservations and live-state tables hold, and how a row is decoded.
Everything but a pid is stored as text, so a row may hold what decodes to nothing.
-/

namespace TeamComm

/-- Why the store reports an error. -/
inductive SqlError
  /-- `FOREIGN KEY constraint failed`. -/
  | constraintViolation
  /-- A column holds no text of its type. -/
  | decode (message : String)
  /-- A column holds no JSON of its type. -/
  | json (column : Nat)
  /-- The database fails to execute a statement. -/
  | failed
  deriving DecidableEq

/-- `Option::ok_or`. -/
def okOr {α : Type} (option : Option α) (error : SqlError) : Except SqlError α :=
  match option with
  | some value => .ok value
  | none => .error error

/-! ## Columns -/

/-- `str::strip_prefix`. -/
def stripFront (text front : String) : Option String :=
  if startsWith text front then some (String.ofList (text.toList.drop front.toList.length))
  else none

theorem stripFront_append (front rest : String) : stripFront (front ++ rest) front = some rest := by
  have starts : startsWith (front ++ rest) front = true := by
    rw [startsWith, String.toList_append, List.isPrefixOf_iff_prefix]
    exact List.prefix_append _ _
  rw [stripFront, if_pos starts, String.toList_append, List.drop_left, String.ofList_toList]

/-- The text of the agent type column. -/
def agentTypeToString : AgentType → String
  | .forge => "forge"
  | .codex => "codex"
  | .claude => "claude"
  | .copilot => "copilot"
  | .custom identifier => "custom:" ++ identifier

/-- An unknown tag is the name of a custom agent. -/
def agentTypeFromString (text : String) : AgentType :=
  match stripFront text "custom:" with
  | some rest => .custom rest
  | none =>
      match text with
      | "forge" => .forge
      | "codex" => .codex
      | "claude" => .claude
      | "copilot" => .copilot
      -- Backwards compatible: a bare `custom` without a name.
      | "custom" => .custom ""
      | other => .custom other

theorem agentTypeFromString_toString (agentType : AgentType) :
    agentTypeFromString (agentTypeToString agentType) = agentType := by
  cases agentType with
  | custom identifier =>
      unfold agentTypeFromString agentTypeToString
      rw [stripFront_append]
  | _ => decide

def reservationModeToString : ReservationMode → String
  | .read => "read"
  | .write => "write"
  | .exclusive => "exclusive"

def reservationModeFromString (text : String) : Option ReservationMode :=
  match text with
  | "read" => some .read
  | "write" => some .write
  | "exclusive" => some .exclusive
  | _ => none

theorem reservationModeFromString_toString (mode : ReservationMode) :
    reservationModeFromString (reservationModeToString mode) = some mode := by
  cases mode <;> rfl

/-- How an agent status is spelled in its column. -/
class StatusText where
  /-- `AgentStatus::as_str`. -/
  asStr : AgentStatus → String
  /-- `AgentStatus::parse`. -/
  parse : String → Option AgentStatus

/-- The names under which the statuses are serialised. -/
@[reducible] def StatusText.snakeCase : StatusText where
  asStr
    | .idle => "idle"
    | .working => "working"
    | .blocked => "blocked"
    | .done => "done"
    | .stuck => "stuck"
  parse text :=
    match toAsciiLowercase text with
    | "idle" => some .idle
    | "working" => some .working
    | "blocked" => some .blocked
    | "done" => some .done
    | "stuck" => some .stuck
    | _ => none

/-- `u32` to `i64`: the integer a pid is stored as. -/
def pidColumn (pid : UInt32) : Int64 := pid.toUInt64.toInt64

/-- `as u32`: the pid in an integer column. -/
def columnPid (column : Int64) : UInt32 := column.toUInt64.toUInt32

@[simp] theorem columnPid_pidColumn (pid : UInt32) : columnPid (pidColumn pid) = pid := by
  simp [columnPid, pidColumn]

theorem pidColumn_injective : Function.Injective pidColumn :=
  Function.LeftInverse.injective columnPid_pidColumn

theorem pidColumn_inj {left right : UInt32} : pidColumn left = pidColumn right ↔ left = right :=
  pidColumn_injective.eq_iff

/-- `serde_json::to_string` of a list of tags. -/
def tagsToString (tags : List String) : String :=
  String.ofList (Json.array (tags.map Json.string)).render

/-- `serde_json::from_str` of a list of tags, which is flat and holds no number. -/
def tagsFromStr (text : String) : Option (List String) := do
  (← (← Json.scan text.toList).asArray).mapM Json.asStr

theorem tagsFromStr_toString (tags : List String) :
    tagsFromStr (tagsToString tags) = some tags := by
  have items : (tags.map Json.string).mapM Json.asStr = some tags := by
    induction tags with
    | nil => rfl
    | cons tag tags ih => simp [List.mapM_cons, ih, Json.asStr]
  simp [tagsFromStr, tagsToString, String.toList_ofList, Json.scan_render, Json.asArray, items]

/-- Read a timestamp column. -/
def parseRfc3339 [Rfc3339] (text context : String) : Except SqlError DateTime :=
  match Rfc3339.parseFromRfc3339 text with
  | .ok instant => .ok instant
  | .error error => .error (.decode s!"{context}: {error}")

theorem parseRfc3339_of_roundTrips [Rfc3339] {instant : DateTime}
    (roundTrips : Rfc3339.RoundTrips instant) (context : String) :
    parseRfc3339 (Rfc3339.toRfc3339 instant) context = .ok instant := by
  rw [parseRfc3339, roundTrips]

/-! ## Rows -/

/-- A row of `sessions` without its key. -/
structure SessionRow where
  agentType : String
  pid : Int64
  startedAt : String
  workingDir : String
  capabilities : String
  lastHeartbeat : String
  deriving DecidableEq

/-- A row of `reservations` without its key. -/
structure ReservationRow where
  sessionId : String
  path : String
  mode : String
  acquiredAt : String
  expiresAt : String
  deriving DecidableEq

/-- A row of `live_state` without its key. -/
structure LiveStateRow where
  focusFile : Option String
  focusBranch : Option String
  worktree : Option String
  status : String
  lastHeartbeat : String
  deriving DecidableEq

/-- A row of `threads` without its key. -/
structure ThreadRow where
  title : String
  topic : Option String
  createdBy : String
  createdAt : String
  status : String

section Codecs

variable [Rfc3339]

/-- The row of a session. -/
def sessionRow (session : Session) : SessionRow where
  agentType := agentTypeToString session.agentType
  pid := pidColumn session.pid
  startedAt := Rfc3339.toRfc3339 session.startedAt
  workingDir := session.workingDir.inner
  capabilities := tagsToString session.capabilities
  lastHeartbeat := Rfc3339.toRfc3339 session.lastHeartbeat

def rowToSession (sessionId : String) (row : SessionRow) : Except SqlError Session := do
  let startedAt ← parseRfc3339 row.startedAt "sessions.started_at"
  let capabilities ← okOr (tagsFromStr row.capabilities) (.json 5)
  let lastHeartbeat ← parseRfc3339 row.lastHeartbeat "sessions.last_heartbeat"
  return {
    sessionId
    agentType := agentTypeFromString row.agentType
    pid := columnPid row.pid
    startedAt
    workingDir := ⟨row.workingDir⟩
    capabilities
    lastHeartbeat }

/-- The row of a reservation. -/
def reservationRow (reservation : Reservation) : ReservationRow where
  sessionId := reservation.sessionId
  path := reservation.path.inner
  mode := reservationModeToString reservation.mode
  acquiredAt := Rfc3339.toRfc3339 reservation.acquiredAt
  expiresAt := Rfc3339.toRfc3339 reservation.expiresAt

def rowToReservation (reservationId : String) (row : ReservationRow) :
    Except SqlError Reservation := do
  let mode ← okOr (reservationModeFromString row.mode)
    (.decode s!"reservation.mode: unknown variant {row.mode}")
  let acquiredAt ← parseRfc3339 row.acquiredAt "reservations.acquired_at"
  let expiresAt ← parseRfc3339 row.expiresAt "reservations.expires_at"
  return {
    reservationId
    sessionId := row.sessionId
    path := ⟨row.path⟩
    mode
    acquiredAt
    expiresAt }

variable [StatusText]

/-- The row of a live state. -/
def liveStateRow (live : LiveState) : LiveStateRow where
  focusFile := live.focusFile.map PathBuf.inner
  focusBranch := live.focusBranch
  worktree := live.worktree.map PathBuf.inner
  status := StatusText.asStr live.status
  lastHeartbeat := Rfc3339.toRfc3339 live.lastHeartbeat

def rowToLiveState (sessionId : String) (row : LiveStateRow) : Except SqlError LiveState := do
  let status ← okOr (StatusText.parse row.status)
    (.decode s!"live_state.status: unknown variant {row.status}")
  let lastHeartbeat ← parseRfc3339 row.lastHeartbeat "live_state.last_heartbeat"
  return {
    sessionId
    focusFile := row.focusFile.map PathBuf.mk
    focusBranch := row.focusBranch
    worktree := row.worktree.map PathBuf.mk
    status
    lastHeartbeat }

end Codecs

/-! ## Rows which decode -/

section Decoding

variable [Rfc3339]

/-- A stored session decodes as long as its two instants do. -/
theorem rowToSession_sessionRow (session : Session) :
    rowToSession session.sessionId (sessionRow session) = do
      let startedAt ← parseRfc3339 (Rfc3339.toRfc3339 session.startedAt) "sessions.started_at"
      let lastHeartbeat ←
        parseRfc3339 (Rfc3339.toRfc3339 session.lastHeartbeat) "sessions.last_heartbeat"
      return { session with startedAt, lastHeartbeat } := by
  unfold rowToSession sessionRow
  simp only [tagsFromStr_toString, agentTypeFromString_toString, columnPid_pidColumn]
  cases parseRfc3339 (Rfc3339.toRfc3339 session.startedAt) "sessions.started_at" <;> rfl

theorem rowToSession_of_roundTrips {session : Session}
    (started : Rfc3339.RoundTrips session.startedAt)
    (beat : Rfc3339.RoundTrips session.lastHeartbeat) :
    rowToSession session.sessionId (sessionRow session) = .ok session := by
  rw [rowToSession_sessionRow, parseRfc3339_of_roundTrips started, parseRfc3339_of_roundTrips beat]
  rfl

theorem rowToReservation_of_roundTrips {reservation : Reservation}
    (acquired : Rfc3339.RoundTrips reservation.acquiredAt)
    (expires : Rfc3339.RoundTrips reservation.expiresAt) :
    rowToReservation reservation.reservationId (reservationRow reservation) = .ok reservation := by
  unfold rowToReservation reservationRow
  simp only [reservationModeFromString_toString, parseRfc3339_of_roundTrips acquired,
    parseRfc3339_of_roundTrips expires]
  rfl

theorem rowToLiveState_of_roundTrips [StatusText] {live : LiveState}
    (status : StatusText.parse (StatusText.asStr live.status) = some live.status)
    (beat : Rfc3339.RoundTrips live.lastHeartbeat) :
    rowToLiveState live.sessionId (liveStateRow live) = .ok live := by
  unfold rowToLiveState liveStateRow
  simp only [status, parseRfc3339_of_roundTrips beat, Option.map_map]
  have paths : PathBuf.mk ∘ PathBuf.inner = id := rfl
  rw [paths, Option.map_id]
  rfl

/-! What a row says is what it decodes to. -/

omit [Rfc3339] in
/-- What is done in two parts is done in the first and then in the second. -/
theorem exists_of_bind {α β : Type} {first : Except SqlError α} {next : α → Except SqlError β}
    {result : β} (done : (first >>= next) = .ok result) :
    ∃ value, first = .ok value ∧ next value = .ok result := by
  cases first with
  | error => cases done
  | ok value => exact ⟨value, rfl, done⟩

theorem pid_of_rowToSession {id : String} {row : SessionRow} {session : Session}
    (decoded : rowToSession id row = .ok session) : columnPid row.pid = session.pid := by
  obtain ⟨startedAt, -, decoded⟩ := exists_of_bind decoded
  obtain ⟨capabilities, -, decoded⟩ := exists_of_bind decoded
  obtain ⟨lastHeartbeat, -, decoded⟩ := exists_of_bind decoded
  exact congrArg Session.pid (Except.ok.inj decoded)

theorem sessionId_of_rowToReservation {id : String} {row : ReservationRow}
    {reservation : Reservation} (decoded : rowToReservation id row = .ok reservation) :
    reservation.sessionId = row.sessionId := by
  obtain ⟨mode, -, decoded⟩ := exists_of_bind decoded
  obtain ⟨acquiredAt, -, decoded⟩ := exists_of_bind decoded
  obtain ⟨expiresAt, -, decoded⟩ := exists_of_bind decoded
  exact (congrArg Reservation.sessionId (Except.ok.inj decoded)).symm

end Decoding

end TeamComm
