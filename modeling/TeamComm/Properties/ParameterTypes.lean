import TeamComm.Daemon.Request

/-!
# Parameters of a wrong type

A handler reads its parameters field by field, and a field of a wrong type like one which is not
there.  So a wrong type is refused where the field has to be there; elsewhere the field takes its
default, and the call is refused only when another of its fields is.
-/

namespace TeamComm

open Json (Value)

/-! ## The fields of the methods -/

/-- The JSON types which the handlers read. -/
inductive JsonType
  | string
  | unsigned
  | boolean
  | strings

/-- Whether a document is of a type. -/
def JsonType.admits : JsonType → Json → Bool
  | .string, json => json.asStr.isSome
  | .unsigned, json => json.asU64.isSome
  | .boolean, json => json.asBool.isSome
  | .strings, json => json.asArray.any fun items => items.all fun item => item.asStr.isSome

/-- A field which a handler reads. -/
structure Field where
  name : String
  type : JsonType
  /-- Whether the field has to be there. -/
  needed : Bool
  /-- The texts it may be. -/
  known : String → Bool

namespace Field

/-- A field which has to be there. -/
def demanded (name : String) (type : JsonType) : Field := ⟨name, type, true, fun _ => true⟩

/-- A field which has a default. -/
def defaulted (name : String) (type : JsonType) : Field := ⟨name, type, false, fun _ => true⟩

/-- A field which names a variant, or has a default. -/
def variant {α : Type} (name : String) (parse : String → Except TeamcommError α) : Field :=
  ⟨name, .string, false, fun text => (parse text).isOk⟩

/-- A field is there, not null and of a wrong type. -/
def IllTyped (field : Field) (params : Value) : Prop :=
  ∃ json, params.get field.name = some json ∧ json.isNull = false ∧ field.type.admits json = false

/-- A field is a reason to refuse a call: it has to be there and is not, or it has a wrong type
then, or it is a text which it may not be. -/
def Refuses (field : Field) (params : Value) : Prop :=
  (field.needed = true ∧
    ∀ json, params.get field.name = some json → field.type.admits json = false) ∨
  ∃ text, getStr params field.name = some text ∧ field.known text = false

end Field

/-- The fields which the handler of a method reads. -/
def fields : String → List Field
  | "session.register" => [.demanded "pid" .unsigned, .defaulted "agent_type" .string,
      .defaulted "working_dir" .string, .defaulted "capabilities" .strings]
  | "session.deregister" => [.demanded "session_id" .string]
  | "session.heartbeat" => [.demanded "session_id" .string]
  | "session.list" => []
  | "session.get" => [.demanded "session_id" .string]
  | "reservation.claim" => [.demanded "session_id" .string, .demanded "path" .string,
      .variant "mode" parseReservationMode, .defaulted "ttl_sec" .unsigned]
  | "reservation.release" => [.demanded "reservation_id" .string]
  | "reservation.list" => [.defaulted "path" .string]
  | "inbox.post" => [.demanded "from_session" .string, .demanded "to_session" .string,
      .defaulted "subject" .string, .defaulted "body" .string, .variant "priority" parsePriority]
  | "inbox.list" => [.demanded "session_id" .string, .defaulted "unread_only" .boolean,
      .defaulted "limit" .unsigned]
  | "inbox.read" => [.demanded "message_id" .string]
  | "state.set" => [.demanded "session_id" .string, .defaulted "focus_file" .string,
      .defaulted "focus_branch" .string, .defaulted "worktree" .string,
      .variant "status" parseAgentStatus]
  | "state.get" => [.demanded "session_id" .string]
  | "discover.agents" => [.defaulted "path" .string, .defaulted "branch" .string,
      .defaulted "capabilities" .strings]
  | _ => []

/-! ## Refusals -/

/-- A reading of parameters refuses them. -/
def Refused {α : Type} (result : Except TeamcommError α) : Prop :=
  ∃ detail, result = .error (.invalidParams detail)

section Reading

variable {α β : Type}

@[simp] theorem not_refused_ok (value : α) : ¬Refused (.ok value : Except TeamcommError α) := by
  rintro ⟨detail, same⟩
  cases same

/-- A reading which goes on whatever its first part returns. -/
theorem refused_bind {check : Except TeamcommError α} {next : α → Except TeamcommError β}
    {rest : Prop} (checks : Refused check ∨ ∃ value, check = .ok value)
    (same : ∀ value, Refused (next value) ↔ rest) :
    Refused (check >>= next) ↔ Refused check ∨ rest := by
  rcases checks with ⟨detail, rfl⟩ | ⟨value, rfl⟩
  · exact iff_of_true ⟨detail, rfl⟩ (Or.inl ⟨detail, rfl⟩)
  · exact (same value).trans (or_iff_right (not_refused_ok value)).symm

/-- A reading which ends behind its first part. -/
theorem refused_last {check : Except TeamcommError α} {finish : α → β} :
    Refused (check >>= fun value => pure (finish value)) ↔ Refused check := by
  cases check with
  | error error => exact exists_congr fun detail => by simp [bind, Except.bind]
  | ok value => exact iff_of_false (not_refused_ok _) (not_refused_ok _)

theorem refused_required {field : String} {read : Option α} :
    Refused (required field read) ↔ read = none := by
  cases read with
  | none => exact iff_of_true ⟨_, rfl⟩ rfl
  | some value => exact iff_of_false (not_refused_ok value) (Option.some_ne_none value)

theorem checks_required (field : String) (read : Option α) :
    Refused (required field read) ∨ ∃ value, required field read = .ok value := by
  cases read with
  | none => exact Or.inl ⟨_, rfl⟩
  | some value => exact Or.inr ⟨value, rfl⟩

end Reading

namespace Field

variable {α : Type} {name : String} {type : JsonType} {params : Value}

@[simp] theorem not_refuses_defaulted : ¬(defaulted name type).Refuses params := by
  simp [Refuses, defaulted]

theorem refuses_demanded_string :
    (demanded name .string).Refuses params ↔ getStr params name = none := by
  simp [Refuses, demanded, JsonType.admits, getStr]

theorem refuses_demanded_unsigned :
    (demanded name .unsigned).Refuses params ↔ getU64 params name = none := by
  simp [Refuses, demanded, JsonType.admits, getU64]

theorem refuses_variant {parse : String → Except TeamcommError α}
    (checks : ∀ text, Refused (parse text) ∨ ∃ value, parse text = .ok value) {default : String}
    (fallback : ∃ value, parse default = .ok value) :
    (variant name parse).Refuses params ↔ Refused (parse ((getStr params name).getD default)) := by
  have unknown (text : String) : (parse text).isOk = false ↔ Refused (parse text) := by
    rcases checks text with ⟨detail, refused⟩ | ⟨value, parsed⟩
    · rw [refused]
      exact iff_of_true rfl ⟨detail, rfl⟩
    · rw [parsed]
      exact iff_of_false (by simp [Except.isOk, Except.toBool]) (not_refused_ok value)
  cases found : getStr params name with
  | none =>
      obtain ⟨value, parsed⟩ := fallback
      simp [Refuses, variant, found, parsed]
  | some text => simp [Refuses, variant, found, unknown]

end Field

theorem default_reservationMode : ∃ mode, parseReservationMode "write" = .ok mode :=
  ⟨.write, by decide⟩

theorem default_priority : ∃ priority, parsePriority "normal" = .ok priority :=
  ⟨.normal, by decide⟩

theorem default_agentStatus : ∃ status, parseAgentStatus "idle" = .ok status :=
  ⟨.idle, by decide⟩

theorem checks_reservationMode (text : String) :
    Refused (parseReservationMode text) ∨ ∃ mode, parseReservationMode text = .ok mode := by
  unfold parseReservationMode
  split
  all_goals first | exact Or.inr ⟨_, rfl⟩ | exact Or.inl ⟨_, rfl⟩

theorem checks_priority (text : String) :
    Refused (parsePriority text) ∨ ∃ priority, parsePriority text = .ok priority := by
  unfold parsePriority
  split
  all_goals first | exact Or.inr ⟨_, rfl⟩ | exact Or.inl ⟨_, rfl⟩

theorem checks_agentStatus (text : String) :
    Refused (parseAgentStatus text) ∨ ∃ status, parseAgentStatus text = .ok status := by
  unfold parseAgentStatus
  split
  all_goals first | exact Or.inr ⟨_, rfl⟩ | exact Or.inl ⟨_, rfl⟩

/-- A demanded string is all that can be refused. -/
theorem refused_demanded {name : String} {params : Value} {finish : String → Request} :
    Refused (requiredStr params name >>= fun text => pure (finish text)) ↔
      (Field.demanded name .string).Refuses params := by
  rw [refused_last, requiredStr, refused_required, Field.refuses_demanded_string]

theorem not_refused_unknown (method : String) :
    ¬Refused (.error (.methodNotFound method) : Except TeamcommError Request) := by
  rintro ⟨detail, same⟩
  cases same

/-- Reading refuses parameters on account of a field. -/
theorem refused_read_iff {method : String} {params : Value} :
    Refused (Request.read method params) ↔ ∃ field ∈ fields method, field.Refuses params := by
  have path_missing : getPath params "path" = none ↔ getStr params "path" = none :=
    Option.map_eq_none_iff
  unfold Request.read fields
  split <;> simp only [List.mem_cons, List.not_mem_nil, or_false, exists_eq_or_imp, exists_eq_left,
    Field.not_refuses_defaulted, false_or, false_and, exists_false]
  · rw [refused_last, refused_required, Field.refuses_demanded_unsigned]
  · exact refused_demanded
  · exact refused_demanded
  · exact iff_false_intro (not_refused_ok _)
  · exact refused_demanded
  · rw [Field.refuses_demanded_string, Field.refuses_demanded_string, ← path_missing,
      Field.refuses_variant checks_reservationMode default_reservationMode]
    refine (refused_bind (checks_required _ _) fun sessionId => ?_).trans
      (or_congr_left refused_required)
    refine (refused_bind (checks_required _ _) fun path => ?_).trans
      (or_congr_left refused_required)
    exact refused_last
  · exact refused_demanded
  · exact iff_false_intro (not_refused_ok _)
  · rw [Field.refuses_demanded_string, Field.refuses_demanded_string,
      Field.refuses_variant checks_priority default_priority]
    refine (refused_bind (checks_required _ _) fun fromSession => ?_).trans
      (or_congr_left refused_required)
    refine (refused_bind (checks_required _ _) fun toSession => ?_).trans
      (or_congr_left refused_required)
    exact refused_last
  · exact refused_demanded
  · exact refused_demanded
  · rw [Field.refuses_demanded_string, Field.refuses_variant checks_agentStatus default_agentStatus]
    refine (refused_bind (checks_required _ _) fun sessionId => ?_).trans
      (or_congr_left refused_required)
    exact refused_last
  · exact refused_demanded
  · exact iff_false_intro (not_refused_ok _)
  · exact iff_false_intro (not_refused_unknown _)

section Calls

variable [Chrono]

/-- A call is answered with invalid parameters and changes nothing. -/
def Rejects (state : AppStateInner) (call : Call) : Prop :=
  ∃ detail, daemon.step state call = (.error (.error (.invalidParams detail)), state)

/-- A request which was read is not answered with invalid parameters. -/
theorem perform_ne_invalidParams (request : Request) (env : Env) (state : AppStateInner)
    (detail : String) :
    (request.perform env state).1 ≠ .error (.error (.invalidParams detail)) := by
  cases request with
  | reservationClaim sessionId path mode ttlSec =>
      rw [Request.perform]
      cases computed : expiry env.now ttlSec with
      | error failure =>
          have panics := expiry_ne_error env.now ttlSec (.invalidParams detail)
          rw [computed] at panics
          simpa using panics
      | ok expires =>
          dsimp only
          split <;> simp [Request.missing]
  | sessionList | reservationList | inboxList | discoverAgents => simp [Request.perform]
  | _ =>
      rw [Request.perform]
      split <;> simp [Request.missing]

theorem rejects_iff {state : AppStateInner} {call : Call} :
    Rejects state call ↔ Refused (Request.read call.method call.params) := by
  constructor
  · rintro ⟨detail, step⟩
    cases read : Request.read call.method call.params with
    | ok request =>
        rw [Request.step_of_read state read] at step
        exact absurd (congrArg Prod.fst step) (perform_ne_invalidParams _ _ _ _)
    | error error =>
        rw [Request.step_of_error state read] at step
        obtain rfl : error = .invalidParams detail := by simpa using congrArg Prod.fst step
        exact ⟨detail, rfl⟩
  · rintro ⟨detail, read⟩
    exact ⟨detail, Request.step_of_error state read⟩

/-- A call with a field of a wrong type is rejected. -/
def RejectsIllTyped (state : AppStateInner) (call : Call) : Prop :=
  (∃ field ∈ fields call.method, field.IllTyped call.params) → Rejects state call

/-- A call with a field of a wrong type is rejected exactly when one of its fields is a reason to
refuse it. -/
theorem rejectsIllTyped_iff {state : AppStateInner} {call : Call} :
    RejectsIllTyped state call ↔
      ((∃ field ∈ fields call.method, field.IllTyped call.params) →
        ∃ field ∈ fields call.method, field.Refuses call.params) :=
  imp_congr_right fun _ => rejects_iff.trans refused_read_iff

end Calls

section Example

attribute [local instance] Chrono.utc

/-- The path to look below is a number. -/
def numberedPath : Call := ⟨"discover.agents", .object [("path", .u64 7)], .ofSeconds 0 "a"⟩

/-- A path of a wrong type does not narrow a discovery. -/
theorem not_rejectsIllTyped_numberedPath :
    ¬∀ (state : AppStateInner) (call : Call), RejectsIllTyped state call := by
  intro rejects
  have illTyped : ∃ field ∈ fields numberedPath.method, field.IllTyped numberedPath.params :=
    ⟨.defaulted "path" .string, by simp [numberedPath, fields], _, rfl, rfl, rfl⟩
  obtain ⟨detail, step⟩ := rejects newState numberedPath illTyped
  cases congrArg Prod.fst step

end Example

end TeamComm
