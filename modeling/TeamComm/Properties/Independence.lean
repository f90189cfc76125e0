import TeamComm.Daemon.Request
import TeamComm.Library.Footprint
import TeamComm.Properties.ConflictReports

/-!
# Independent requests

Each of the six requests with which agents work changes one place of the state, according to what
the place held and to which sessions are registered, and none of them registers a session.  So
requests at different places commute.  Only a claim looks at other places, at those of the
reservations on its path.
-/

namespace TeamComm

open Json (Value)

/-! ## Places -/

/-- A place of the state. -/
inductive Cell
  | session (id : String)
  | pid (pid : UInt32)
  | reservation (id : String)
  | live (id : String)
  | inbox (id : String)
  deriving DecidableEq

/-- What a place can hold. -/
def Cell.Content : Cell → Type
  | .session _ => Option Session
  | .pid _ => Option String
  | .reservation _ => Option Reservation
  | .live _ => Option LiveState
  | .inbox _ => Option (List InboxMessage)

/-- What a place holds. -/
def look (state : AppStateInner) : (cell : Cell) → cell.Content
  | .session id => state.sessions.get id
  | .pid pid => state.sessionsByPid.get pid
  | .reservation id => state.reservations.get id
  | .live id => state.liveState.get id
  | .inbox id => state.inbox.get id

/-- Two states whose maps are the same extensionally. -/
structure SameMaps (left right : AppStateInner) : Prop where
  sessions : ∀ id, left.sessions.get id = right.sessions.get id
  sessionsByPid : ∀ pid, left.sessionsByPid.get pid = right.sessionsByPid.get pid
  reservations : ∀ id, left.reservations.get id = right.reservations.get id
  liveState : ∀ id, left.liveState.get id = right.liveState.get id
  inbox : ∀ id, left.inbox.get id = right.inbox.get id

theorem sameMaps_of_look {left right : AppStateInner} (same : look left = look right) :
    SameMaps left right where
  sessions id := congrFun same (.session id)
  sessionsByPid pid := congrFun same (.pid pid)
  reservations id := congrFun same (.reservation id)
  liveState id := congrFun same (.live id)
  inbox id := congrFun same (.inbox id)

section Places

variable (state : AppStateInner) (id : String)

theorem look_insertSession (session : Session) :
    look { state with sessions := state.sessions.insert id session } =
      Function.update (look state) (.session id) (some session) := by
  refine Function.eq_update_iff.mpr ⟨HashMap.get_insert_self _ _ _, fun cell other => ?_⟩
  cases cell with
  | session name =>
      exact HashMap.get_insert_of_ne _ _ fun same => other (congrArg Cell.session same)
  | pid | reservation | live | inbox => rfl

theorem look_insertReservation (reservation : Reservation) :
    look { state with reservations := state.reservations.insert id reservation } =
      Function.update (look state) (.reservation id) (some reservation) := by
  refine Function.eq_update_iff.mpr ⟨HashMap.get_insert_self _ _ _, fun cell other => ?_⟩
  cases cell with
  | reservation name =>
      exact HashMap.get_insert_of_ne _ _ fun same => other (congrArg Cell.reservation same)
  | session | pid | live | inbox => rfl

theorem look_removeReservation :
    look { state with reservations := state.reservations.remove id } =
      Function.update (look state) (.reservation id) none := by
  refine Function.eq_update_iff.mpr ⟨(HashMap.get_remove _ _ _).trans (if_pos rfl), ?_⟩
  intro cell other
  cases cell with
  | reservation name =>
      exact (HashMap.get_remove _ _ _).trans
        (if_neg fun same => other (congrArg Cell.reservation same))
  | session | pid | live | inbox => rfl

theorem look_insertLive (live : LiveState) :
    look { state with liveState := state.liveState.insert id live } =
      Function.update (look state) (.live id) (some live) := by
  refine Function.eq_update_iff.mpr ⟨HashMap.get_insert_self _ _ _, fun cell other => ?_⟩
  cases cell with
  | live name => exact HashMap.get_insert_of_ne _ _ fun same => other (congrArg Cell.live same)
  | session | pid | reservation | inbox => rfl

theorem look_insertInbox (messages : List InboxMessage) :
    look { state with inbox := state.inbox.insert id messages } =
      Function.update (look state) (.inbox id) (some messages) := by
  refine Function.eq_update_iff.mpr ⟨HashMap.get_insert_self _ _ _, fun cell other => ?_⟩
  cases cell with
  | inbox name => exact HashMap.get_insert_of_ne _ _ fun same => other (congrArg Cell.inbox same)
  | session | pid | reservation | live => rfl

end Places

/-! ## Requests at their places -/

/-- The methods with which agents work. -/
def agentMethods : List String :=
  ["session.heartbeat", "state.set", "reservation.claim", "reservation.release", "inbox.post",
    "inbox.list"]

/-- A call makes one of the six requests, which changes a place. -/
inductive Makes (call : Call) : Request → Cell → Prop
  | heartbeat {sessionId : String} (method : call.method = "session.heartbeat")
      (named : getStr call.params "session_id" = some sessionId) :
      Makes call (.sessionHeartbeat sessionId) (.session sessionId)
  | publishes {sessionId : String} {focusFile : Option PathBuf} {focusBranch : Option String}
      {worktree : Option PathBuf} {status : AgentStatus} (method : call.method = "state.set")
      (named : getStr call.params "session_id" = some sessionId) :
      Makes call (.stateSet sessionId focusFile focusBranch worktree status) (.live sessionId)
  | claims {sessionId : String} {path : PathBuf} {mode : ReservationMode} {ttlSec : UInt64}
      (method : call.method = "reservation.claim")
      (claimed : getPath call.params "path" = some path) :
      Makes call (.reservationClaim sessionId path mode ttlSec)
        (.reservation call.env.mintReservationId)
  | releases {reservationId : String} (method : call.method = "reservation.release")
      (named : getStr call.params "reservation_id" = some reservationId) :
      Makes call (.reservationRelease reservationId) (.reservation reservationId)
  | posts {fromSession toSession subject body : String} {priority : Priority}
      (method : call.method = "inbox.post")
      (addressed : getStr call.params "to_session" = some toSession) :
      Makes call (.inboxPost fromSession toSession subject body priority) (.inbox toSession)
  | lists {sessionId : String} {unreadOnly : Bool} {limit : UInt64}
      (method : call.method = "inbox.list")
      (named : getStr call.params "session_id" = some sessionId) :
      Makes call (.inboxList sessionId unreadOnly limit) (.inbox sessionId)

/-- A reading which starts with a demanded string. -/
private theorem demanded_cases {α : Type} {params : Value} {name : String}
    {next : String → Except TeamcommError α} :
    (∃ error, (requiredStr params name >>= next) = .error error) ∨
      ∃ text, getStr params name = some text ∧ (requiredStr params name >>= next) = next text := by
  cases found : getStr params name with
  | none => exact Or.inl ⟨_, by rw [requiredStr, found]; rfl⟩
  | some text => exact Or.inr ⟨text, rfl, by rw [requiredStr_eq_ok.mpr found]; rfl⟩

/-- What is read off a call of one of the six methods, if its parameters are in order. -/
theorem makes_of_agentMethod {call : Call} (agent : call.method ∈ agentMethods) :
    (∃ error, Request.read call.method call.params = .error error) ∨
      ∃ request cell, Request.read call.method call.params = .ok request ∧
        Makes call request cell := by
  rcases call with ⟨method, params, env⟩
  simp only [agentMethods, List.mem_cons, List.not_mem_nil, or_false] at agent
  rcases agent with rfl | rfl | rfl | rfl | rfl | rfl
  · rcases demanded_cases with refused | ⟨sessionId, named, read⟩
    · exact Or.inl refused
    · exact Or.inr ⟨_, _, read, .heartbeat rfl named⟩
  · rcases demanded_cases with refused | ⟨sessionId, named, read⟩
    · exact Or.inl refused
    · cases known : parseAgentStatus ((getStr params "status").getD "idle") with
      | error => exact Or.inl ⟨_, read.trans (by rw [known]; rfl)⟩
      | ok status => exact Or.inr ⟨_, _, read.trans (by rw [known]; rfl), .publishes rfl named⟩
  · rcases demanded_cases with refused | ⟨sessionId, named, read⟩
    · exact Or.inl refused
    · cases claimed : getPath params "path" with
      | none => exact Or.inl ⟨_, read.trans (by rw [claimed]; rfl)⟩
      | some path =>
          cases known : parseReservationMode ((getStr params "mode").getD "write") with
          | error => exact Or.inl ⟨_, read.trans (by rw [claimed, known]; rfl)⟩
          | ok mode =>
              exact Or.inr ⟨_, _, read.trans (by rw [claimed, known]; rfl), .claims rfl claimed⟩
  · rcases demanded_cases with refused | ⟨reservationId, named, read⟩
    · exact Or.inl refused
    · exact Or.inr ⟨_, _, read, .releases rfl named⟩
  · rcases demanded_cases with refused | ⟨fromSession, named, read⟩
    · exact Or.inl refused
    · rcases demanded_cases with ⟨error, refused⟩ | ⟨toSession, addressed, further⟩
      · exact Or.inl ⟨error, read.trans refused⟩
      · cases known : parsePriority ((getStr params "priority").getD "normal") with
        | error => exact Or.inl ⟨_, (read.trans further).trans (by rw [known]; rfl)⟩
        | ok priority =>
            exact Or.inr ⟨_, _, (read.trans further).trans (by rw [known]; rfl),
              .posts rfl addressed⟩
  · rcases demanded_cases with refused | ⟨sessionId, named, read⟩
    · exact Or.inl refused
    · exact Or.inr ⟨_, _, read, .lists rfl named⟩

/-- Just these sessions are registered. -/
def KnowsSessions (known : String → Bool) (state : AppStateInner) : Prop :=
  ∀ id, state.sessions.containsKey id = known id

section Locality

variable [Chrono] {call : Call} {request : Request} {cell : Cell} {known : String → Bool}

/-- None of the six requests registers a session or removes one. -/
theorem registers_step (read : Request.read call.method call.params = .ok request)
    (makes : Makes call request cell) {state : AppStateInner}
    (registers : KnowsSessions known state) : KnowsSessions known (daemon.step state call).2 := by
  intro id
  rw [Request.step_of_read state read, ← registers id]
  cases makes with
  | @heartbeat sessionId =>
      rw [Request.perform]
      cases stored : state.sessions.get sessionId with
      | none => rfl
      | some session =>
          rw [Bool.eq_iff_iff]
          dsimp only
          rw [HashMap.containsKey_insert]
          refine or_iff_right_of_imp ?_
          rintro rfl
          exact HashMap.containsKey_iff.mpr ⟨session, stored⟩
  | publishes | claims | releases | posts | lists => rw [Request.sessions_perform rfl]

omit [Chrono] in
/-- A change of one place stays one when it is made for a registered session only. -/
private theorem changes_of_registered (sessionId : String) {after : AppStateInner → AppStateInner}
    (next : AppStateInner → AppStateInner) (update : cell.Content → cell.Content)
    (guards : ∀ state, after state =
      if state.sessions.containsKey sessionId then next state else state)
    (changes : ∀ state,
      look (next state) = Function.update (look state) cell (update (look state cell))) :
    ∃ update : cell.Content → cell.Content, ∀ state, KnowsSessions known state →
      look (after state) = Function.update (look state) cell (update (look state cell)) := by
  cases registered : known sessionId with
  | true =>
      refine ⟨update, fun state registers => ?_⟩
      rw [guards, if_pos ((registers sessionId).trans registered)]
      exact changes state
  | false =>
      refine ⟨id, fun state registers => ?_⟩
      rw [guards, if_neg (by simp [(registers sessionId).trans registered])]
      exact (Function.update_eq_self _ _).symm

/-- A request is local to its place. -/
theorem localAt_of_read (read : Request.read call.method call.params = .ok request)
    (makes : Makes call request cell) (known : String → Bool) :
    ∃ update, daemon.LocalAt (KnowsSessions known) look call cell update := by
  suffices changes : ∃ update : cell.Content → cell.Content, ∀ state, KnowsSessions known state →
      look (request.perform call.env state).2 =
        Function.update (look state) cell (update (look state cell)) by
    obtain ⟨update, changed⟩ := changes
    refine ⟨update, fun registers => registers_step read makes registers, fun registers => ?_⟩
    rw [Request.step_of_read _ read]
    exact changed _ registers
  cases makes with
  | @heartbeat sessionId =>
      refine ⟨Option.map fun session => { session with lastHeartbeat := call.env.now }, ?_⟩
      intro state _
      rw [Request.perform]
      cases stored : state.sessions.get sessionId with
      | none =>
          have held : look state (.session sessionId) = none := stored
          rw [held]
          exact (Function.update_eq_self_iff.mpr held.symm).symm
      | some session =>
          have held : look state (.session sessionId) = some session := stored
          rw [held]
          exact look_insertSession _ _ _
  | @claims sessionId path mode ttlSec =>
      cases computed : expiry call.env.now ttlSec with
      | error failure =>
          refine ⟨id, fun state _ => ?_⟩
          rw [Request.perform, computed]
          exact (Function.update_eq_self _ _).symm
      | ok expires =>
          let granted := Claim.reservation ⟨sessionId, path, mode, expires⟩ call.env
          refine changes_of_registered sessionId (fun state => { state with
              reservations := state.reservations.insert call.env.mintReservationId granted })
            (fun _ => some granted) (fun state => ?_) fun state => look_insertReservation _ _ _
          rw [Request.perform, computed]
          exact apply_ite Prod.snd _ _ _
  | @releases reservationId =>
      refine ⟨fun _ => none, fun state _ => ?_⟩
      rw [Request.perform]
      cases stored : state.reservations.get reservationId with
      | none => exact (Function.update_eq_self_iff.mpr stored.symm).symm
      | some reservation => exact look_removeReservation _ _
  | @posts fromSession toSession subject body priority =>
      let message : InboxMessage :=
        { messageId := call.env.mintMessageId, fromSession, toSession, subject, body, priority,
          ts := call.env.now, read := false }
      refine changes_of_registered fromSession (fun state => { state with
          inbox := state.inbox.insert toSession ((state.inbox.get toSession).getD [] ++ [message]) })
        (fun old => some (old.getD [] ++ [message])) (fun state => ?_)
        fun state => look_insertInbox _ _ _
      rw [Request.perform]
      exact apply_ite Prod.snd _ _ _
  | @lists sessionId unreadOnly limit =>
      exact ⟨fun old => some (markRead (resultIds unreadOnly limit (old.getD [])) (old.getD [])),
        fun state _ => look_insertInbox _ _ _⟩
  | @publishes sessionId focusFile focusBranch worktree status =>
      let live : LiveState :=
        { sessionId, focusFile, focusBranch, worktree, status, lastHeartbeat := call.env.now }
      refine changes_of_registered sessionId (fun state => { state with
          liveState := state.liveState.insert sessionId live })
        (fun _ => some live) (fun state => ?_) fun state => look_insertLive _ _ _
      rw [Request.perform]
      exact apply_ite Prod.snd _ _ _

/-- Whether a request is a claim. -/
def Request.isClaim : Request → Bool
  | .reservationClaim .. => true
  | _ => false

/-- A request which is no claim is answered according to its place. -/
theorem answersFrom_of_read (read : Request.read call.method call.params = .ok request)
    (makes : Makes call request cell) (other : request.isClaim = false)
    (known : String → Bool) :
    ∃ answer, daemon.AnswersFrom (KnowsSessions known) look call cell answer := by
  suffices answers : ∃ answer : cell.Content → Except Failure Value, ∀ state,
      KnowsSessions known state → (request.perform call.env state).1 = answer (look state cell) by
    obtain ⟨answer, answered⟩ := answers
    refine ⟨answer, fun registers => ?_⟩
    rw [Request.step_of_read _ read]
    exact answered _ registers
  cases makes with
  | @heartbeat sessionId =>
      refine ⟨fun old => if old.isSome then .ok (.object [("ok", .bool true),
        ("next_heartbeat_sec", .u64 heartbeatIntervalSec)]) else
        .error (.error (.notFound s!"session {sessionId}")), fun state _ => ?_⟩
      rw [Request.perform]
      cases stored : state.sessions.get sessionId with
      | none =>
          have held : look state (.session sessionId) = none := stored
          rw [held]
          rfl
      | some session =>
          have held : look state (.session sessionId) = some session := stored
          rw [held]
          rfl
  | claims => cases other
  | @releases reservationId =>
      refine ⟨fun old => if old.isSome then .ok Request.okReply else
        .error (.error (.notFound s!"reservation {reservationId}")), fun state _ => ?_⟩
      rw [Request.perform]
      cases stored : state.reservations.get reservationId with
      | none =>
          have held : look state (.reservation reservationId) = none := stored
          rw [held]
          rfl
      | some reservation =>
          have held : look state (.reservation reservationId) = some reservation := stored
          rw [held]
          rfl
  | @posts fromSession toSession subject body priority =>
      refine ⟨fun _ => if known fromSession then
        .ok (.object [("message_id", .string call.env.mintMessageId)]) else
        .error (.error (.notFound s!"session {fromSession}")), fun state registers => ?_⟩
      rw [Request.perform, registers fromSession]
      split <;> rfl
  | @lists sessionId unreadOnly limit =>
      exact ⟨fun old => .ok (.array (((markRead (resultIds unreadOnly limit (old.getD []))
        (old.getD [])).filter fun message =>
          message.messageId ∈ resultIds unreadOnly limit (old.getD [])).map InboxMessage.toValue)),
        fun state _ => rfl⟩
  | @publishes sessionId focusFile focusBranch worktree status =>
      refine ⟨fun _ => if known sessionId then .ok Request.okReply else
        .error (.error (.notFound s!"session {sessionId}")), fun state registers => ?_⟩
      rw [Request.perform, registers sessionId]
      split <;> rfl

/-! ## Iteration orders -/

/-- A call which visits maps in another order. -/
def Call.arranged (call : Call) (order : IterOrder) : Call :=
  { call with env := { call.env with order } }

/-- What one of the six requests leaves behind does not depend on the order of a visit. -/
theorem after_arranged (agent : call.method ∈ agentMethods) (order : IterOrder)
    (state : AppStateInner) :
    (daemon.step state (call.arranged order)).2 = (daemon.step state call).2 := by
  rcases makes_of_agentMethod agent with ⟨error, read⟩ | ⟨request, cell, read, makes⟩
  · have arranged : Request.read (call.arranged order).method (call.arranged order).params = _ :=
      read
    rw [Request.step_of_error state read, Request.step_of_error state arranged]
  · have arranged : Request.read (call.arranged order).method (call.arranged order).params = _ :=
      read
    rw [Request.step_of_read state read, Request.step_of_read state arranged]
    cases makes with
    | @claims sessionId path mode ttlSec =>
        have same_now : (call.arranged order).env.now = call.env.now := rfl
        rw [Request.perform, Request.perform, same_now]
        cases expiry call.env.now ttlSec with
        | error => rfl
        | ok expires =>
            dsimp only
            split <;> rfl
    | heartbeat | publishes | releases | posts | lists => rfl

/-- Nor does its answer, unless it is a claim. -/
theorem step_arranged (read : Request.read call.method call.params = .ok request)
    (makes : Makes call request cell) (other : request.isClaim = false) (order : IterOrder)
    (state : AppStateInner) : daemon.step state (call.arranged order) = daemon.step state call := by
  have arranged : Request.read (call.arranged order).method (call.arranged order).params = _ := read
  rw [Request.step_of_read state read, Request.step_of_read state arranged]
  cases makes with
  | claims => cases other
  | heartbeat | publishes | releases | posts | lists => rfl

/-! ## Answers -/

/-- Two answers are equal, or grant the same claim and report the same set of conflicts. -/
inductive SameAnswer : Except Failure Value → Except Failure Value → Prop
  | equal (answer : Except Failure Value) : SameAnswer answer answer
  | granted (id : String) (left right : List Value)
      (conflicts : ∀ conflict, conflict ∈ left ↔ conflict ∈ right) :
      SameAnswer
        (.ok (.object [("reservation_id", .string id), ("conflicts", .array left)]))
        (.ok (.object [("reservation_id", .string id), ("conflicts", .array right)]))

/-- What is in the way of a claim is stored in both of two states, or in neither. -/
def SameBlocks (before after : AppStateInner) (now : DateTime) (sessionId : String) (path : PathBuf)
    (mode : ReservationMode) : Prop :=
  ∀ reservation, blocksClaim now sessionId path mode reservation = true →
    ((∃ id, before.reservations.get id = some reservation) ↔
      ∃ id, after.reservations.get id = some reservation)

/-- A claim is answered the same when the same is in its way. -/
theorem sameAnswer_claim {sessionId : String} {path : PathBuf} {mode : ReservationMode}
    {ttlSec : UInt64} {before after : AppStateInner}
    (read : Request.read call.method call.params =
      .ok (.reservationClaim sessionId path mode ttlSec))
    (registered : ∀ id, before.sessions.containsKey id = after.sessions.containsKey id)
    (blocks : SameBlocks before after call.env.now sessionId path mode) (order other : IterOrder) :
    SameAnswer (daemon.step before (call.arranged order)).1
      (daemon.step after (call.arranged other)).1 := by
  have first : Request.read (call.arranged order).method (call.arranged order).params = _ := read
  have second : Request.read (call.arranged other).method (call.arranged other).params = _ := read
  have first_now : (call.arranged order).env.now = call.env.now := rfl
  have second_now : (call.arranged other).env.now = call.env.now := rfl
  rw [Request.step_of_read before first, Request.step_of_read after second, Request.perform,
    Request.perform, first_now, second_now]
  cases expiry call.env.now ttlSec with
  | error failure => exact .equal _
  | ok expires =>
      dsimp only
      rw [registered sessionId]
      split
      · refine .granted _ _ _ fun conflict => ?_
        simp only [Claim.conflicts, List.mem_map, List.mem_filter, IterOrder.mem_arrange,
          HashMap.mem_values]
        refine exists_congr fun reservation => and_congr_left fun _ => ?_
        exact and_congr_left fun blocking => blocks reservation blocking
      · exact .equal _

end Locality

/-! ## Independence -/

/-- The session which a call acts for, if it names one. -/
def actor (call : Call) : Option String :=
  match call.method with
  | "inbox.post" => getStr call.params "from_session"
  | "reservation.release" => none
  | _ => getStr call.params "session_id"

/-- The inbox which a call is about. -/
def inboxNamed (call : Call) : Option String :=
  match call.method with
  | "inbox.post" => getStr call.params "to_session"
  | "inbox.list" => getStr call.params "session_id"
  | _ => none

/-- The reservation which a call releases. -/
def releasedId (call : Call) : Option String :=
  match call.method with
  | "reservation.release" => getStr call.params "reservation_id"
  | _ => none

/-- The path which a call claims or whose reservation it releases. -/
def pathNamed (state : AppStateInner) (call : Call) : Option PathBuf :=
  match call.method with
  | "reservation.claim" => getPath call.params "path"
  | _ => ((releasedId call).bind state.reservations.get).map Reservation.path

/-- Two calls of the six methods act for different sessions, release stored reservations but not the
same one, and are not about the same inbox. -/
structure Independent (state : AppStateInner) (left right : Call) : Prop where
  left_agent : left.method ∈ agentMethods
  right_agent : right.method ∈ agentMethods
  actors : ∀ id, actor left = some id → actor right ≠ some id
  left_stored : ∀ id, releasedId left = some id →
    ∃ reservation, state.reservations.get id = some reservation
  right_stored : ∀ id, releasedId right = some id →
    ∃ reservation, state.reservations.get id = some reservation
  releases : ∀ id, releasedId left = some id → releasedId right ≠ some id
  inboxes : ∀ id, inboxNamed left = some id → inboxNamed right ≠ some id

/-- Two calls are not about reservations on equal paths. -/
def PathsApart (state : AppStateInner) (left right : Call) : Prop :=
  ∀ path other, pathNamed state left = some path → pathNamed state right = some other →
    (path == other) = false

theorem PathsApart.symm {state : AppStateInner} {left right : Call}
    (apart : PathsApart state left right) : PathsApart state right left := by
  intro path other path_named other_named
  have different := apart other path other_named path_named
  rw [← Bool.not_eq_true, PathBuf.beq_iff] at different ⊢
  exact fun same => different same.symm

/-- What a call would mint is not stored, nor would another call mint it. -/
structure Unminted (state : AppStateInner) (left right : Call) : Prop where
  left_new : state.reservations.get left.env.mintReservationId = none
  right_new : state.reservations.get right.env.mintReservationId = none
  different : left.env.mintReservationId ≠ right.env.mintReservationId

theorem Independent.symm {state : AppStateInner} {left right : Call}
    (independent : Independent state left right) : Independent state right left where
  left_agent := independent.right_agent
  right_agent := independent.left_agent
  actors id acts other := independent.actors id other acts
  left_stored := independent.right_stored
  right_stored := independent.left_stored
  releases id released other := independent.releases id other released
  inboxes id named other := independent.inboxes id other named

theorem Unminted.symm {state : AppStateInner} {left right : Call}
    (unminted : Unminted state left right) : Unminted state right left :=
  ⟨unminted.right_new, unminted.left_new, unminted.different.symm⟩

/-- How a call names the place which it changes. -/
def NamesPlace (call : Call) : Cell → Prop
  | .session id | .live id => actor call = some id
  | .inbox id => inboxNamed call = some id
  | .reservation id => id = call.env.mintReservationId ∨ releasedId call = some id
  | .pid _ => False

theorem namesPlace_of_makes {call : Call} {request : Request} {cell : Cell}
    (makes : Makes call request cell) : NamesPlace call cell := by
  cases makes with
  | heartbeat method named | publishes method named => simp [NamesPlace, actor, method, named]
  | claims => exact Or.inl rfl
  | releases method named => exact Or.inr (by simp [releasedId, method, named])
  | posts method addressed => simp [NamesPlace, inboxNamed, method, addressed]
  | lists method named => simp [NamesPlace, inboxNamed, method, named]

/-- Independent calls change different places. -/
theorem Independent.places_apart {state : AppStateInner} {left right : Call} {here there : Cell}
    (independent : Independent state left right) (unminted : Unminted state left right)
    (names : NamesPlace left here) (other_names : NamesPlace right there) : here ≠ there := by
  rintro rfl
  cases here with
  | session id | live id => exact independent.actors id names other_names
  | inbox id => exact independent.inboxes id names other_names
  | pid => exact names
  | reservation id =>
      rcases names with rfl | released <;> rcases other_names with minted | other_released
      · exact unminted.different minted
      · obtain ⟨reservation, stored⟩ := independent.right_stored _ other_released
        rw [unminted.left_new] at stored
        cases stored
      · obtain ⟨reservation, stored⟩ := independent.left_stored _ released
        rw [minted, unminted.right_new] at stored
        cases stored
      · exact independent.releases id released other_released

section Commuting

variable [Chrono] {state : AppStateInner} {left right : Call}

theorem unminted_run {calls : List Call} (fresh : FreshIds (calls ++ [left, right])) :
    Unminted (daemon.run newState calls) left right := by
  have unstored {call : Call} (member : call ∈ [left, right]) :
      (daemon.run newState calls).reservations.get call.env.mintReservationId = none := by
    cases stored : (daemon.run newState calls).reservations.get call.env.mintReservationId with
    | none => rfl
    | some reservation =>
        obtain ⟨env, spent, same⟩ := reservationsMinted_run (Mealy.Fresh.front fresh) _ _ stored
        exact absurd (Env.mintReservationId_inj.mp same) (Mealy.Fresh.ne fresh spent member)
  refine ⟨unstored (by simp), unstored (by simp), fun same => ?_⟩
  have split : FreshIds ((calls ++ [left]) ++ [right]) := by
    rw [List.append_assoc]
    exact fresh
  exact Mealy.Fresh.ne split (by simp) (List.mem_singleton_self right)
    (Env.mintReservationId_inj.mp same).symm

omit [Chrono] in
private theorem stored_insert_iff {map : HashMap String Reservation} {key : String}
    {reservation new : Reservation} (absent : map.get key = none) (different : reservation ≠ new) :
    (∃ id, map.get id = some reservation) ↔
      ∃ id, (map.insert key new).get id = some reservation := by
  refine exists_congr fun id => ?_
  rw [HashMap.get_insert]
  split
  next same => simp [same, absent, different.symm]
  next => exact Iff.rfl

omit [Chrono] in
private theorem stored_remove_iff {map : HashMap String Reservation} {key : String}
    {reservation : Reservation} (different : map.get key ≠ some reservation) :
    (∃ id, map.get id = some reservation) ↔ ∃ id, (map.remove key).get id = some reservation := by
  refine exists_congr fun id => ?_
  rw [HashMap.get_remove_eq_some, iff_and_self]
  rintro stored rfl
  exact different stored

/-- A reservation request on another path changes nothing that is in the way of a claim. -/
theorem sameBlocks_step {request : Request} {cell : Cell} {now : DateTime} {sessionId : String}
    {path : PathBuf} {mode : ReservationMode}
    (read : Request.read right.method right.params = .ok request)
    (makes : Makes right request cell)
    (unstored : state.reservations.get right.env.mintReservationId = none)
    (apart : ∀ other, pathNamed state right = some other → (path == other) = false) :
    SameBlocks state (daemon.step state right).2 now sessionId path mode := by
  intro reservation blocks
  have on_path : (path == reservation.path) = true := by
    simp only [blocksClaim, Bool.and_eq_true] at blocks
    exact PathBuf.beq_iff.mpr (PathBuf.beq_iff.mp blocks.1.1.1).symm
  rw [Request.step_of_read state read]
  cases makes with
  | @claims holder claimed claimed_mode ttlSec method named =>
      have elsewhere := apart claimed (by simp [pathNamed, method, named])
      rw [Request.perform]
      cases expiry right.env.now ttlSec with
      | error => exact Iff.rfl
      | ok expires =>
          dsimp only
          split
          · refine stored_insert_iff unstored ?_
            rintro rfl
            exact absurd on_path (Bool.eq_false_iff.mp elsewhere)
          · exact Iff.rfl
  | @releases id method named =>
      rw [Request.perform]
      cases stored : state.reservations.get id with
      | none => exact Iff.rfl
      | some released =>
          have elsewhere := apart released.path
            (by simp [pathNamed, releasedId, method, named, stored])
          refine stored_remove_iff fun same => ?_
          obtain rfl := Option.some.inj (stored.symm.trans same)
          exact absurd on_path (Bool.eq_false_iff.mp elsewhere)
  | heartbeat | publishes | posts =>
      rw [Request.perform]
      split <;> exact Iff.rfl
  | lists => exact Iff.rfl

/-- The order of a visit does not matter to an answer. -/
theorem sameAnswer_arranged (agent : left.method ∈ agentMethods) (order other : IterOrder) :
    SameAnswer (daemon.step state (left.arranged order)).1
      (daemon.step state (left.arranged other)).1 := by
  rcases makes_of_agentMethod agent with ⟨error, read⟩ | ⟨request, cell, read, makes⟩
  · have first : Request.read (left.arranged order).method (left.arranged order).params = _ := read
    have second : Request.read (left.arranged other).method (left.arranged other).params = _ := read
    rw [Request.step_of_error _ first, Request.step_of_error _ second]
    exact .equal _
  · cases claim : request.isClaim with
    | false =>
        rw [step_arranged read makes claim, step_arranged read makes claim]
        exact .equal _
    | true =>
        cases makes with
        | claims =>
            exact sameAnswer_claim read (fun id => rfl) (fun reservation _ => Iff.rfl) order other
        | heartbeat | publishes | releases | posts | lists => cases claim

/-- A call is answered the same behind an independent one, if they are not about reservations on
equal paths. -/
theorem sameAnswer_behind (independent : Independent state left right)
    (unminted : Unminted state left right) (paths : PathsApart state left right)
    (order other : IterOrder) :
    SameAnswer (daemon.step state (left.arranged order)).1
      (daemon.step (daemon.step state right).2 (left.arranged other)).1 := by
  rcases makes_of_agentMethod independent.right_agent with
    ⟨error, refused⟩ | ⟨further, there, further_read, further_makes⟩
  · rw [Request.step_of_error state refused]
    exact sameAnswer_arranged independent.left_agent order other
  rcases makes_of_agentMethod independent.left_agent with
    ⟨error, read⟩ | ⟨request, here, read, makes⟩
  · have first : Request.read (left.arranged order).method (left.arranged order).params = _ := read
    have second : Request.read (left.arranged other).method (left.arranged other).params = _ := read
    rw [Request.step_of_error _ first, Request.step_of_error _ second]
    exact .equal _
  have known : KnowsSessions (fun id => state.sessions.containsKey id) state := fun id => rfl
  have apart : here ≠ there := independent.places_apart unminted (namesPlace_of_makes makes)
    (namesPlace_of_makes further_makes)
  obtain ⟨update, local_there⟩ := localAt_of_read further_read further_makes
    fun id => state.sessions.containsKey id
  cases claim : request.isClaim with
  | false =>
      obtain ⟨answer, answers⟩ := answersFrom_of_read read makes claim
        fun id => state.sessions.containsKey id
      rw [step_arranged read makes claim, step_arranged read makes claim,
        Mealy.LocalAt.same_answer answers local_there apart known]
      exact .equal _
  | true =>
      cases makes with
      | @claims sessionId path mode ttlSec method claimed =>
          refine sameAnswer_claim read (fun id => (local_there.stays known id).symm) ?_ order other
          refine sameBlocks_step further_read further_makes unminted.right_new fun path named => ?_
          exact paths _ _ (by simp [pathNamed, method, claimed]) named
      | heartbeat | publishes | releases | posts | lists => cases claim

/-- Independent calls lead to the same state in both orders. -/
theorem look_commute (independent : Independent state left right)
    (unminted : Unminted state left right) :
    look (daemon.run state [left, right]) = look (daemon.run state [right, left]) := by
  rcases makes_of_agentMethod independent.left_agent with
    ⟨error, read⟩ | ⟨request, here, read, makes⟩
  · simp [Request.step_of_error _ read]
  rcases makes_of_agentMethod independent.right_agent with
    ⟨error, refused⟩ | ⟨further, there, further_read, further_makes⟩
  · simp [Request.step_of_error _ refused]
  obtain ⟨update, local_here⟩ := localAt_of_read read makes fun id => state.sessions.containsKey id
  obtain ⟨further_update, local_there⟩ := localAt_of_read further_read further_makes
    fun id => state.sessions.containsKey id
  have apart : here ≠ there := independent.places_apart unminted (namesPlace_of_makes makes)
    (namesPlace_of_makes further_makes)
  exact local_here.commute local_there apart fun id => rfl

/-- Independent calls commute: in both orders, and whatever the order in which each visits the maps,
they lead to the same maps.  Unless they are about reservations on equal paths, either is answered
behind the other as it is in front. -/
theorem independent_commute {calls : List Call} (fresh : FreshIds (calls ++ [left, right]))
    (independent : Independent (daemon.run newState calls) left right)
    (leftOrder rightOrder : IterOrder) :
    SameMaps (daemon.run (daemon.run newState calls) [left, right])
      (daemon.run (daemon.run newState calls)
        [right.arranged rightOrder, left.arranged leftOrder]) ∧
    (PathsApart (daemon.run newState calls) left right →
      SameAnswer (daemon.step (daemon.run newState calls) left).1
        (daemon.step (daemon.step (daemon.run newState calls) (right.arranged rightOrder)).2
          (left.arranged leftOrder)).1 ∧
      SameAnswer (daemon.step (daemon.run newState calls) (right.arranged rightOrder)).1
        (daemon.step (daemon.step (daemon.run newState calls) left).2 right).1) := by
  have unminted := unminted_run fresh
  refine ⟨sameMaps_of_look ?_, fun paths => ⟨?_, ?_⟩⟩
  · rw [look_commute independent unminted]
    simp only [Mealy.run_cons, Mealy.run_nil, after_arranged independent.left_agent,
      after_arranged independent.right_agent]
  · rw [after_arranged independent.right_agent]
    exact sameAnswer_behind independent unminted paths left.env.order leftOrder
  · exact sameAnswer_behind independent.symm unminted.symm paths.symm rightOrder right.env.order

end Commuting

section Example

attribute [local instance] Chrono.utc

/-- The first of two agents releases its file. -/
def releaseFirst : Call :=
  ⟨"reservation.release", .object [("reservation_id", .string "resv_c")], .ofSeconds 3 "d"⟩

/-- The second agent claims another file. -/
def claimReadme : Call :=
  ⟨"reservation.claim", .object [("session_id", .string "sess_b"), ("path", .string "/README.md")],
    .ofSeconds 4 "e"⟩

theorem independent_commute_release_claim :
    SameMaps
      (daemon.run (daemon.run newState (contestingCalls.take 3)) [releaseFirst, claimReadme])
      (daemon.run (daemon.run newState (contestingCalls.take 3)) [claimReadme, releaseFirst]) ∧
    SameAnswer (daemon.step (daemon.run newState (contestingCalls.take 3)) claimReadme).1
      (daemon.step (daemon.step (daemon.run newState (contestingCalls.take 3)) releaseFirst).2
        claimReadme).1 := by
  have fresh : FreshIds (contestingCalls.take 3 ++ [releaseFirst, claimReadme]) := by decide
  have released : releasedId releaseFirst = some "resv_c" := rfl
  have independent : Independent (daemon.run newState (contestingCalls.take 3)) releaseFirst
      claimReadme := by
    refine ⟨by decide, by decide, fun id acts => ?_, fun id named => ?_, fun id named => ?_,
      fun id _ named => ?_, fun id named => ?_⟩
    · cases acts
    · obtain rfl := Option.some.inj (released.symm.trans named)
      exact ⟨_, rfl⟩
    · cases named
    · cases named
    · cases named
  have commute := independent_commute fresh independent .stored .stored
  refine ⟨commute.1, (commute.2 fun path other named other_named => ?_).2⟩
  obtain rfl : (⟨"/src/lib.rs"⟩ : PathBuf) = path := Option.some.inj named
  obtain rfl : (⟨"/README.md"⟩ : PathBuf) = other := Option.some.inj other_named
  decide

end Example

end TeamComm
