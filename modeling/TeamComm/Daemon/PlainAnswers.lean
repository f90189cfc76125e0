import TeamComm.Daemon.Request
import TeamComm.Library.JsonLimits

/-!
# Plain answers

The results of the daemon hold no numbers but integers, and they are flat: whatever its callers sent
before, every envelope which it writes is within the limits of a reader.
-/

namespace TeamComm

open Json (Value)

/-! ## Records -/

section Records

variable {depth : Nat}

@[simp] theorem plain_optionValue {α : Type*} {toValue : α → Value} {field : Option α}
    (plain : ∀ inner, (toValue inner).Plain depth) : (optionValue toValue field).Plain depth := by
  cases field with
  | none => exact Value.plain_null
  | some inner => exact plain inner

@[simp] theorem PathBuf.plain_toValue (path : PathBuf) : path.toValue.Plain depth :=
  Value.plain_string path.inner

@[simp] theorem DateTime.plain_toValue [Chrono] (instant : DateTime) :
    instant.toValue.Plain depth :=
  Value.plain_string _

theorem plain_records {α : Type*} {toValue : α → Value}
    (plain : ∀ record, (toValue record).Plain depth) (records : List α) :
    (Value.array (records.map toValue)).Plain (depth + 1) := by
  refine Value.plain_array fun item member => ?_
  obtain ⟨record, -, rfl⟩ := List.mem_map.mp member
  exact plain record

theorem plain_strings (texts : List String) :
    (Value.array (texts.map .string)).Plain (depth + 1) :=
  plain_records Value.plain_string texts

@[simp] theorem plain_i32Value (code : Int32) : (i32Value code).Plain depth :=
  Value.plain_integer _

theorem AgentType.plain_toValue (agentType : AgentType) :
    agentType.toValue.Plain (depth + 1) := by
  cases agentType with
  | custom identifier => exact Value.plain_object (by simp)
  | forge | codex | claude | copilot => exact Value.plain_string _

@[simp] theorem AgentStatus.plain_toValue (status : AgentStatus) : status.toValue.Plain depth := by
  cases status <;> exact Value.plain_string _

@[simp] theorem ReservationMode.plain_toValue (mode : ReservationMode) :
    mode.toValue.Plain depth := by
  cases mode <;> exact Value.plain_string _

@[simp] theorem Priority.plain_toValue (priority : Priority) : priority.toValue.Plain depth := by
  cases priority <;> exact Value.plain_string _

variable [Chrono]

theorem Session.plain_toValue (session : Session) : session.toValue.Plain (depth + 2) :=
  Value.plain_object (by simp [AgentType.plain_toValue, plain_strings])

theorem LiveState.plain_toValue (live : LiveState) : live.toValue.Plain (depth + 1) :=
  Value.plain_object (by simp)

theorem SessionSummary.plain_toValue (summary : SessionSummary) :
    summary.toValue.Plain (depth + 2) :=
  Value.plain_object (by simp [AgentType.plain_toValue])

theorem Reservation.plain_toValue (reservation : Reservation) :
    reservation.toValue.Plain (depth + 1) :=
  Value.plain_object (by simp)

theorem InboxMessage.plain_toValue (message : InboxMessage) :
    message.toValue.Plain (depth + 1) :=
  Value.plain_object (by simp)

end Records

/-! ## Results -/

/-- How deep the result of a request may be: a list of records with a list in them. -/
def resultDepth : Nat := 3

section Results

private theorem plain_reply {members : List (String × Value)}
    (plain : ∀ entry ∈ members, entry.2.Plain 0) : (Value.object members).Plain resultDepth :=
  (Value.plain_object plain).mono (by decide)

variable [Chrono] {env : Env} {state : AppStateInner} {result : Value}

theorem Request.plain_perform {request : Request}
    (answered : (request.perform env state).1 = .ok result) : result.Plain resultDepth := by
  cases request with
  | sessionList => exact Except.ok.inj answered ▸ plain_records Session.plain_toValue _
  | reservationList => exact Except.ok.inj answered ▸ plain_records Reservation.plain_toValue _
  | inboxList => exact Except.ok.inj answered ▸ plain_records InboxMessage.plain_toValue _
  | discoverAgents => exact Except.ok.inj answered ▸ plain_records SessionSummary.plain_toValue _
  | sessionRegister | sessionDeregister =>
      simp only [Request.perform] at answered
      split at answered <;> exact Except.ok.inj answered ▸ plain_reply (by simp)
  | sessionHeartbeat | reservationRelease | inboxPost | stateSet =>
      simp only [Request.perform] at answered
      split at answered
      · exact Except.ok.inj answered ▸ plain_reply (by simp)
      · cases answered
  | sessionGet =>
      simp only [Request.perform] at answered
      split at answered
      · exact Except.ok.inj answered ▸ Session.plain_toValue _
      · cases answered
  | inboxRead =>
      simp only [Request.perform] at answered
      split at answered
      · exact Except.ok.inj answered ▸ InboxMessage.plain_toValue _
      · cases answered
  | stateGet =>
      simp only [Request.perform] at answered
      split at answered
      · exact Except.ok.inj answered ▸ LiveState.plain_toValue _
      · cases answered
  | reservationClaim =>
      simp only [Request.perform] at answered
      split at answered
      · cases answered
      · split at answered
        · obtain rfl := Except.ok.inj answered
          refine Value.plain_object ?_
          simp [plain_records Reservation.plain_toValue]
        · cases answered

/-- A result is plain, whatever the parameters were. -/
theorem plain_step {call : Call} (answered : (daemon.step state call).1 = .ok result) :
    result.Plain resultDepth := by
  have dispatched : (Request.performed call.env state (Request.read call.method call.params)).1 =
      .ok result := by
    rw [← Request.exec_dispatch]
    exact answered
  cases read : Request.read call.method call.params with
  | error error =>
      rw [read] at dispatched
      cases dispatched
  | ok request =>
      rw [read] at dispatched
      exact Request.plain_perform dispatched

end Results

/-! ## Envelopes -/

theorem RpcId.plain_toValue (id : RpcId) {depth : Nat} : id.toValue.Plain depth := by
  cases id with
  | string text => exact Value.plain_string text
  | number value => exact Value.plain_u64 value

private theorem readable_object {members : List (String × Value)}
    (plain : ∀ entry ∈ members, entry.2.Plain resultDepth) : (Value.object members).Readable :=
  (Value.plain_object plain).mono (by decide)

namespace Listener

theorem readable_successEnvelope (id : RpcId) {result : Value} (plain : result.Plain resultDepth) :
    (successEnvelope id result).Readable :=
  readable_object (by simp [RpcId.plain_toValue, plain])

theorem readable_errorEnvelope (id : RpcId) (error : TeamcommError) :
    (errorEnvelope id error).Readable := by
  refine readable_object ?_
  simp only [List.forall_mem_cons, RpcId.plain_toValue, Value.plain_string]
  exact ⟨trivial, trivial, Value.plain_object (by simp), by simp⟩

theorem readable_parseErrorEnvelope (data : String) : (parseErrorEnvelope data).Readable := by
  refine readable_object ?_
  simp only [List.forall_mem_cons, Value.plain_string, Value.plain_null]
  exact ⟨trivial, trivial, Value.plain_object (by simp), by simp⟩

end Listener

end TeamComm
