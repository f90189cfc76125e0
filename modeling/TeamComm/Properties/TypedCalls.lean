import TeamComm.Client.Answers
import TeamComm.Properties.CallService
import TeamComm.Properties.ClientAgreement
import TeamComm.Properties.ErrorPaths
import TeamComm.Properties.InboxHandout

/-!
# Typed calls

What the caller of a typed client method learns from its result.
-/

namespace TeamComm

open Json (Value)

/-- The message which is found is one of those searched, marked as read. -/
theorem readFirst_stored {id : String} {messages marked : List InboxMessage}
    {message : InboxMessage} (found : readFirst id messages = some (message, marked)) :
    ∃ stored ∈ messages, message = { stored with read := true } := by
  induction messages generalizing marked with
  | nil => cases found
  | cons head tail ih =>
      rw [readFirst] at found
      split at found
      next =>
        obtain ⟨rfl, -⟩ := Prod.mk.inj (Option.some.inj found)
        exact ⟨head, List.mem_cons_self, rfl⟩
      next =>
        obtain ⟨⟨inner, rest⟩, inner_found, same⟩ := Option.map_eq_some_iff.mp found
        obtain ⟨rfl, -⟩ := Prod.mk.inj same
        obtain ⟨stored, member, marked_eq⟩ := ih inner_found
        exact ⟨stored, List.mem_cons_of_mem _ member, marked_eq⟩

namespace Request

variable [Chrono] {request : Request} {env : Env} {before : AppStateInner} {value : Value}

omit [Chrono] in
theorem missing_ne_ok {detail : String} {state : AppStateInner} :
    (missing detail state).1 ≠ .ok value := nofun

/-- A value is an answer of the type of a request, and true of the states. -/
def ReportsTruly (request : Request) (env : Env) (before : AppStateInner) (value : Value) : Prop :=
  ∃ answer, value = request.answerValue answer ∧
    request.Reports env before (request.perform env before).2 answer

/-- A registration answers with the session which the process has from then on. -/
theorem reports_sessionRegister {pid : UInt32} {agentType : AgentType} {workingDir : PathBuf}
    {capabilities : List String}
    (succeeds : ((Request.sessionRegister pid agentType workingDir capabilities).perform env
      before).1 = .ok value) :
    (Request.sessionRegister pid agentType workingDir capabilities).ReportsTruly env before
      value := by
  unfold ReportsTruly
  rw [perform] at succeeds ⊢
  cases bound : sessionOf before pid with
  | some found =>
      obtain ⟨id, existing⟩ := found
      simp only [bound] at succeeds ⊢
      obtain rfl := Except.ok.inj succeeds
      refine ⟨⟨id, leaseTtlSec⟩, rfl, rfl, (sessionOf_eq_some.mp bound).1, _,
        HashMap.get_insert_self .., rfl, ?_, fun unbound => ?_⟩
      · rintro _ _ same
        rw [bound] at same
        exact congrArg Prod.fst (Option.some.inj same)
      · rw [bound] at unbound
        cases unbound
  | none =>
      simp only [bound] at succeeds ⊢
      obtain rfl := Except.ok.inj succeeds
      refine ⟨⟨env.mintSessionId, leaseTtlSec⟩, rfl, rfl, HashMap.get_insert_self .., _,
        HashMap.get_insert_self .., rfl, ?_, fun _ => rfl⟩
      rintro _ _ same
      rw [bound] at same
      cases same

/-- A claim answers with what blocks it. -/
theorem reports_reservationClaim {sessionId : String} {path : PathBuf} {mode : ReservationMode}
    {ttlSec : UInt64}
    (succeeds : ((Request.reservationClaim sessionId path mode ttlSec).perform env
      before).1 = .ok value) :
    (Request.reservationClaim sessionId path mode ttlSec).ReportsTruly env before value := by
  unfold ReportsTruly
  rw [perform] at succeeds ⊢
  cases inTime : expiry env.now ttlSec with
  | error failure =>
      simp only [inTime] at succeeds
      cases succeeds
  | ok expires =>
      simp only [inTime] at succeeds ⊢
      split at succeeds
      next registered =>
        rw [if_pos registered]
        obtain rfl := Except.ok.inj succeeds
        refine ⟨⟨env.mintReservationId, _⟩, ?_, (env.order.perm _).filter _, expires, inTime,
          HashMap.get_insert_self ..⟩
        rfl
      next => exact absurd succeeds missing_ne_ok

/-- A listing shows the reservations which last, below the path if one is given. -/
theorem reports_reservationList {path : Option PathBuf}
    (succeeds : ((Request.reservationList path).perform env before).1 = .ok value) :
    (Request.reservationList path).ReportsTruly env before value := by
  obtain rfl := Except.ok.inj succeeds
  refine ⟨_, rfl, ?_⟩
  cases path with
  | none => simpa [Reports] using (env.order.perm _).filter _
  | some front =>
      have listed := ((env.order.perm before.reservations.values).filter fun reservation =>
        decide (env.now < reservation.expiresAt)).filter fun reservation =>
          startsWith reservation.path.inner front.inner
      simpa [Reports, List.filter_filter, Bool.and_comm] using listed

/-- A message is read from the inbox which holds it. -/
theorem reports_inboxRead {messageId : String}
    (succeeds : ((Request.inboxRead messageId).perform env before).1 = .ok value) :
    (Request.inboxRead messageId).ReportsTruly env before value := by
  unfold ReportsTruly
  rw [perform] at succeeds ⊢
  split at succeeds
  next owner message marked found =>
    obtain rfl := Except.ok.inj succeeds
    obtain ⟨⟨holder, inbox⟩, member, read⟩ := List.exists_of_findSome?_eq_some found
    obtain ⟨⟨first, rest⟩, first_read, same⟩ := Option.map_eq_some_iff.mp read
    obtain ⟨rfl, rfl, rfl⟩ : holder = owner ∧ first = message ∧ rest = marked := by
      simpa using same
    obtain ⟨stored, stored_here, marked_eq⟩ := readFirst_stored first_read
    have held : before.inbox.get holder = some inbox :=
      HashMap.mem_entries.mp (IterOrder.mem_arrange.mp member)
    refine ⟨first, rfl, readFirst_id first_read, by rw [marked_eq], holder, inbox, held, stored,
      stored_here, marked_eq, rest, first_read, HashMap.get_insert_self ..⟩
  next => exact absurd succeeds missing_ne_ok

/-- A discovery summarizes the sessions which pass its filters. -/
theorem reports_discoverAgents {path : Option PathBuf} {branch : Option String}
    {capabilities : List String}
    (succeeds : ((Request.discoverAgents path branch capabilities).perform env
      before).1 = .ok value) :
    (Request.discoverAgents path branch capabilities).ReportsTruly env before value := by
  obtain rfl := Except.ok.inj succeeds
  refine ⟨_, rfl, fun summary => ?_⟩
  rw [List.mem_filterMap]
  constructor
  · rintro ⟨⟨id, session⟩, member, summarized⟩
    obtain ⟨passes, same⟩ := Option.ite_none_right_eq_some.mp summarized
    exact ⟨id, session, HashMap.mem_entries.mp (IterOrder.mem_arrange.mp member), passes,
      (Option.some.inj same).symm⟩
  · rintro ⟨id, session, stored, passes, rfl⟩
    exact ⟨⟨id, session⟩, IterOrder.mem_arrange.mpr (HashMap.mem_entries.mpr stored),
      if_pos passes⟩

/-- A request which succeeds answers with a value of its type, which is true of the states. -/
theorem perform_reports (succeeds : (request.perform env before).1 = .ok value) :
    request.ReportsTruly env before value := by
  unfold ReportsTruly
  cases request with
  | sessionRegister => exact reports_sessionRegister succeeds
  | sessionDeregister sessionId =>
      rw [perform] at succeeds ⊢
      cases found : before.sessions.get sessionId with
      | some removed =>
          simp only [found] at succeeds ⊢
          obtain rfl := Except.ok.inj succeeds
          refine ⟨⟨true⟩, rfl, rfl, ?_⟩
          rw [HashMap.get_remove, if_pos rfl]
      | none =>
          simp only [found] at succeeds ⊢
          obtain rfl := Except.ok.inj succeeds
          exact ⟨⟨true⟩, rfl, rfl, found⟩
  | sessionHeartbeat sessionId =>
      rw [perform] at succeeds ⊢
      cases found : before.sessions.get sessionId with
      | some session =>
          simp only [found] at succeeds ⊢
          obtain rfl := Except.ok.inj succeeds
          exact ⟨⟨true, heartbeatIntervalSec⟩, rfl, rfl, session, found,
            HashMap.get_insert_self ..⟩
      | none =>
          simp only [found] at succeeds
          exact absurd succeeds missing_ne_ok
  | sessionList =>
      obtain rfl := Except.ok.inj succeeds
      exact ⟨env.order.arrange before.sessions.values, rfl, env.order.perm _⟩
  | sessionGet sessionId =>
      rw [perform] at succeeds ⊢
      cases found : before.sessions.get sessionId with
      | some session =>
          simp only [found] at succeeds
          obtain rfl := Except.ok.inj succeeds
          exact ⟨session, rfl, found⟩
      | none =>
          simp only [found] at succeeds
          exact absurd succeeds missing_ne_ok
  | reservationClaim => exact reports_reservationClaim succeeds
  | reservationRelease reservationId =>
      rw [perform] at succeeds ⊢
      cases found : before.reservations.get reservationId with
      | some reservation =>
          simp only [found] at succeeds ⊢
          obtain rfl := Except.ok.inj succeeds
          refine ⟨⟨true⟩, rfl, rfl, HashMap.containsKey_iff.mpr ⟨reservation, found⟩, ?_⟩
          rw [HashMap.get_remove, if_pos rfl]
      | none =>
          simp only [found] at succeeds
          exact absurd succeeds missing_ne_ok
  | reservationList => exact reports_reservationList succeeds
  | inboxPost fromSession toSession subject body priority =>
      rw [perform] at succeeds ⊢
      split at succeeds
      next registered =>
        rw [if_pos registered]
        obtain rfl := Except.ok.inj succeeds
        exact ⟨⟨env.mintMessageId⟩, rfl, HashMap.get_insert_self ..⟩
      next => exact absurd succeeds missing_ne_ok
  | inboxList sessionId unreadOnly limit =>
      obtain rfl := Except.ok.inj succeeds
      exact ⟨_, rfl, HashMap.get_insert_self .., rfl⟩
  | inboxRead => exact reports_inboxRead succeeds
  | stateSet sessionId focusFile focusBranch worktree status =>
      rw [perform] at succeeds ⊢
      split at succeeds
      next registered =>
        rw [if_pos registered]
        obtain rfl := Except.ok.inj succeeds
        exact ⟨⟨true⟩, rfl, rfl, HashMap.get_insert_self ..⟩
      next => exact absurd succeeds missing_ne_ok
  | stateGet sessionId =>
      rw [perform] at succeeds ⊢
      cases found : before.liveState.get sessionId with
      | some live =>
          simp only [found] at succeeds
          obtain rfl := Except.ok.inj succeeds
          exact ⟨live, rfl, found⟩
      | none =>
          simp only [found] at succeeds
          exact absurd succeeds missing_ne_ok
  | discoverAgents => exact reports_discoverAgents succeeds

end Request

/-! ## What a typed call performs -/

section Chrono

variable [Chrono] {method : ClientMethod} {env : Env} {before : AppStateInner}

/-- Only a request which can be read succeeds. -/
theorem intended_of_ok {value : Value}
    (succeeds : (Request.performed env before method.intended).1 = .ok value) :
    ∃ request, method.intended = .ok request ∧ (request.perform env before).1 = .ok value := by
  cases intended : method.intended with
  | error error =>
      rw [intended] at succeeds
      cases succeeds
  | ok request =>
      rw [intended] at succeeds
      exact ⟨request, rfl, succeeds⟩

end Chrono

/-! ## What the caller learns -/

/-- What a typed method sends is flat and holds no numbers but integers. -/
theorem ClientMethod.plain_sent (method : ClientMethod) : method.sent.params.Plain 2 := by
  have given {name : String} {text : Option String} :
      ∀ member ∈ givenStr name text, member.2.Plain 1 := by
    cases text <;> simp [givenStr]
  cases method with
  | sessionRegister =>
      refine Value.plain_object ?_
      rw [List.forall_mem_append]
      exact ⟨by simp [plain_strings], given⟩
  | stateSet =>
      refine Value.plain_object ?_
      simp only [List.forall_mem_append]
      exact ⟨⟨⟨by simp, given⟩, given⟩, given⟩
  | discoverAgents =>
      refine Value.plain_object ?_
      simp only [List.forall_mem_append]
      exact ⟨⟨by simp [plain_strings], given⟩, given⟩
  | reservationList path => exact Value.plain_object given
  | _ => exact Value.plain_object (by simp)

theorem ClientMethod.understood_sent [SerdeText] (method : ClientMethod) :
    Understood method.sent := by
  have request : (Client.request method.sent).Plain 3 :=
    Value.plain_object (by simp [method.plain_sent])
  exact .inl (request.mono (by decide))

section TypedCalls

variable [Chrono] [SerdeText]

/-- A typed call which returns a result has been served once since it began: the result is of the
type of its request, and it is true of the states of the daemon in front of that point and behind
it.  One which returns an error of the daemon has been served once, too, and has changed nothing:
its request was too long, or the daemon has answered it with this error. -/
theorem typed_calls (state : AppStateInner) (front : List LinkEvent) (event : LinkEvent)
    (method : ClientMethod) :
    (∀ value passes, (link.step (link.run (.connected state) front) event).1 =
        some ⟨method.sent, .ok value, passes⟩ →
      ∃ request answer earlier env, method.intended = .ok request ∧
        value = request.answerValue answer ∧
        ServedOnce (.connected state) front method.sent earlier env ∧
        request.Reports env (link.run (.connected state) earlier).state
          (link.run (.connected state) (earlier ++ [.process env])).state answer) ∧
    ∀ code message passes, (link.step (link.run (.connected state) front) event).1 =
        some ⟨method.sent, .error (.daemon code message), passes⟩ →
      ∃ error : TeamcommError, code = error.rpcCode.toInt ∧ message = error.display ∧
        ∃ earlier env, ServedOnce (.connected state) front method.sent earlier env ∧
          (link.run (.connected state) (earlier ++ [.process env])).state =
            (link.run (.connected state) earlier).state ∧
          ((Oversize (requestText method.sent) ∧
              error = .invalidParams s!"line exceeds MAX_LINE_BYTES ({maxLineBytes})") ∨
            (Request.performed env (link.run (.connected state) earlier).state
              method.intended).1 = .error (.error error)) := by
  constructor
  · intro value passes returned
    obtain ⟨earlier, env, served, executes⟩ := served_of_answer state returned trivial
    have performed := executes.executed method.understood_sent value rfl
    rw [Request.exec_dispatch, ClientMethod.read_sent] at performed
    obtain ⟨request, intended, succeeds⟩ := intended_of_ok (congrArg Prod.fst performed)
    obtain ⟨answer, value_eq, reports⟩ := request.perform_reports succeeds
    refine ⟨request, answer, earlier, env, intended, value_eq, served, ?_⟩
    rw [intended] at performed
    have leaves := congrArg Prod.snd performed
    dsimp only at leaves
    rw [← leaves]
    exact reports
  · intro code message passes returned
    obtain ⟨earlier, env, served, executes⟩ := served_of_answer state returned trivial
    obtain ⟨error, failed, code_eq, message_eq⟩ :=
      error_of_reported (executes.reported method.understood_sent).symm
    refine ⟨error, code_eq, message_eq, earlier, env, served, executes.refused _ rfl, ?_⟩
    dsimp only at failed
    by_cases oversize : Oversize (requestText method.sent)
    · rw [computed, if_pos oversize] at failed
      exact .inl ⟨oversize, (Failure.error.inj (Except.error.inj failed)).symm⟩
    · rw [computed, if_neg oversize, Request.exec_dispatch, ClientMethod.read_sent] at failed
      exact .inr failed

end TypedCalls

/-- A client waits for the reply to its call until it reads it. -/
theorem client_of_served [Chrono] [SerdeText] {start : Link} (idle : start.client = .idle)
    (call : MethodCall) (env : Env) (fault : Option Nat) :
    (link.run start [.call call none, .process env, .flush fault]).client = .waiting call := by
  change (((start.begin call none).2.process env).flush fault).client = _
  rw [Link.flush_client, Link.process_client, Link.begin, idle]

section Heartbeat

attribute [local instance] Chrono.utc compactText

/-- A daemon with one session. -/
def registeredState : AppStateInner :=
  (Request.perform (.ofSeconds 0 "a") newState (.sessionRegister 7 .forge ⟨"/src"⟩ [])).2

/-- A heartbeat of the session is served, and its reply is on the way. -/
def heartbeatEvents : List LinkEvent :=
  [.call (Client.sessionHeartbeat "sess_a") none, .process (.ofSeconds 1 "b"), .flush none]

theorem typed_calls_heartbeatEvents :
    ∃ answer earlier env, ServedOnce (.connected registeredState) heartbeatEvents
        (Client.sessionHeartbeat "sess_a") earlier env ∧
      (Request.sessionHeartbeat "sess_a").Reports env
        (link.run (.connected registeredState) earlier).state
        (link.run (.connected registeredState) (earlier ++ [.process env])).state answer := by
  have answered : ((link.step (link.run (.connected registeredState) heartbeatEvents)
      (.receive 0)).1.any fun finished => finished.outcome.toBool) = true := by decide +kernel
  have client : (link.run (.connected registeredState) heartbeatEvents).client =
      .waiting (Client.sessionHeartbeat "sess_a") := client_of_served rfl _ _ _
  obtain ⟨⟨call, outcome, passes⟩, returned, succeeds⟩ := (Option.any_eq_true ..).mp answered
  obtain ⟨rfl, -⟩ := call_of_returned client returned
  cases outcome with
  | error error => cases succeeds
  | ok value =>
      obtain ⟨request, answer, earlier, env, intended, -, served, reports⟩ :=
        (typed_calls registeredState heartbeatEvents (.receive 0)
          (.sessionHeartbeat "sess_a")).1 value passes returned
      obtain rfl : Request.sessionHeartbeat "sess_a" = request := Except.ok.inj intended
      exact ⟨answer, earlier, env, served, reports⟩

end Heartbeat

end TeamComm
