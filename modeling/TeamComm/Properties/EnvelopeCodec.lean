import TeamComm.Library.JsonText
import TeamComm.Protocol.Rpc

/-!
# Envelopes round trip

An envelope whose numbers are integers is read back from the text which is written for it, unless it
is too deep to be read at all.  The one value that does not survive is a `null` in the optional data
of an error, which an optional field cannot tell from nothing.
-/

namespace TeamComm

open Json (Value)

/-- Read a record from a text which has no members but its fields. -/
def decode [Json.Floats] {α : Type*} (deserialize : Json → Option α) (text : List Char) :
    Option α :=
  (Json.parse text).bind deserialize

/-- A record is read from its text unless one of its fields is too deep. -/
theorem decode_structDoc [Json.Floats] {α : Type*} {deserialize : Json → Option α}
    {fields : List (String × Json)} (integral : ∀ field ∈ fields, field.2.Integral) :
    decode deserialize (structDoc fields).render =
      if ∀ field ∈ fields, field.2.nesting < Json.nestingLimit then deserialize (structDoc fields)
      else none := by
  have deep : (structDoc fields).nesting ≤ Json.nestingLimit ↔
      ∀ field ∈ fields, field.2.nesting < Json.nestingLimit := by
    simp only [structDoc, Json.nesting, Json.nestingLimit, Nat.succ_le_succ_iff,
      Json.nestingMembers_le, Nat.lt_succ_iff]
  have taken : (structDoc fields).accept =
      if (structDoc fields).nesting ≤ Json.nestingLimit then some (structDoc fields) else none :=
    Json.Integral.accept (.object integral)
  rw [decode, Json.parse_render, taken, if_congr deep rfl rfl]
  split <;> rfl

/-! ## Identifiers -/

theorem RpcId.integral_toValue (id : RpcId) : id.toValue.doc.Integral := by
  cases id with
  | string text => exact .string text
  | number value => exact .integer _

theorem RpcId.nesting_toValue (id : RpcId) : id.toValue.doc.nesting = 0 := by
  cases id <;> rfl

theorem RpcId.isNull_toValue (id : RpcId) : id.toValue.doc.isNull = false := by
  cases id <;> rfl

theorem asU64_eq_some {json : Json} {value : UInt64} :
    json.asU64 = some value ↔ json = (Value.u64 value).doc := by
  constructor
  · intro read
    obtain ⟨whole, spelled, in_range⟩ := Option.bind_eq_some_iff.mp read
    obtain ⟨integer, rfl, rfl⟩ : ∃ integer : Json.Integer, json = .number (.integer integer) ∧
        integer.value = whole := by
      unfold Json.asInteger at spelled
      split at spelled
      next integer => exact ⟨integer, rfl, Option.some.inj spelled⟩
      next => cases spelled
    split at in_range
    next positive =>
      obtain rfl := Option.some.inj in_range
      obtain ⟨whole, lower, upper⟩ := integer
      have small : whole.toNat < 2 ^ 64 := by
        change whole < 2 ^ 64 at upper
        omega
      have same : ((UInt64.ofNat whole.toNat).toNat : Int) = whole := by
        rw [UInt64.toNat_ofNat_of_lt' small]
        exact Int.toNat_of_nonneg positive
      simp only [Value.u64, Value.integer, same]
    next => cases in_range
  · rintro rfl
    exact Value.asU64_u64 value

/-- An id is read from the document which is written for it, and from no other. -/
theorem RpcId.deserialize_eq_some {json : Json} {id : RpcId} :
    RpcId.deserialize json = some id ↔ json = id.toValue.doc := by
  constructor
  · intro read
    unfold RpcId.deserialize at read
    split at read
    next text =>
      obtain rfl := Option.some.inj read
      rfl
    next =>
      obtain ⟨value, number, rfl⟩ := Option.map_eq_some_iff.mp read
      exact asU64_eq_some.mp number
  · rintro rfl
    exact RpcId.deserialize_toValue id

/-- Ids are read from strings and from integers which fit in a `u64`. -/
theorem RpcId.deserialize_isSome {json : Json} :
    (RpcId.deserialize json).isSome = true ↔
      (∃ text, json = .string text) ∨
        ∃ integer : Json.Integer, json = .number (.integer integer) ∧ 0 ≤ integer.value := by
  rw [Option.isSome_iff_exists]
  simp only [RpcId.deserialize_eq_some]
  constructor
  · rintro ⟨text | value, rfl⟩
    · exact Or.inl ⟨text, rfl⟩
    · exact Or.inr ⟨_, rfl, Int.natCast_nonneg _⟩
  · rintro (⟨text, rfl⟩ | ⟨⟨whole, lower, upper⟩, rfl, positive⟩)
    · exact ⟨.string text, rfl⟩
    · change 0 ≤ whole at positive
      refine ⟨.number (UInt64.ofNat whole.toNat), ?_⟩
      refine asU64_eq_some.mp ?_
      simp only [Json.asU64, Json.asInteger, Option.bind_some, if_pos positive]

/-! ## Records -/

theorem JsonRpcRequest.deserialize_serialize (request : JsonRpcRequest) :
    JsonRpcRequest.deserialize request.serialize = some request := by
  have fields : structFields ["jsonrpc", "id", "method", "params"] request.serialize = some [
      some (.string request.jsonrpc),
      some (optionDoc (fun id => id.toValue.doc) request.id),
      some (.string request.method),
      some request.params.doc] := structFields_structDoc rfl (by decide)
  have id : optionField RpcId.deserialize (some (optionDoc (fun id => id.toValue.doc) request.id)) =
      some request.id := by
    rw [optionField_optionDoc RpcId.deserialize_toValue]
    cases request.id with
    | none => rfl
    | some id => simp [RpcId.isNull_toValue]
  rw [JsonRpcRequest.deserialize, fields]
  simp [id, Json.asStr]

theorem JsonRpcResponse.deserialize_serialize (response : JsonRpcResponse) :
    JsonRpcResponse.deserialize response.serialize = some response := by
  have fields : structFields ["jsonrpc", "id", "result"] response.serialize = some [
      some (.string response.jsonrpc),
      some response.id.toValue.doc,
      some response.result.doc] := structFields_structDoc rfl (by decide)
  rw [JsonRpcResponse.deserialize, fields]
  simp [Json.asStr]

/-- An error without a `null` in its data. -/
def JsonRpcError.withoutNull (error : JsonRpcError) : JsonRpcError :=
  { error with data := error.data.filter fun data => !data.doc.isNull }

theorem JsonRpcError.deserialize_serialize (error : JsonRpcError) :
    JsonRpcError.deserialize error.serialize = some error.withoutNull := by
  have fields : structFields ["code", "message", "data"] error.serialize = some [
      some (i32Value error.code).doc,
      some (.string error.message),
      some (optionDoc Value.doc error.data)] := structFields_structDoc rfl (by decide)
  have inverse : ∀ value : Value, some (Value.ofJson value.doc) = some value := fun value =>
    congrArg some (Value.ofJson_doc value)
  have data : optionField (fun json => some (Value.ofJson json))
      (some (optionDoc Value.doc error.data)) = some error.withoutNull.data :=
    optionField_optionDoc inverse error.data
  rw [JsonRpcError.deserialize, fields]
  simp [data, Json.asStr, JsonRpcError.withoutNull]

theorem JsonRpcErrorResponse.deserialize_serialize (response : JsonRpcErrorResponse) :
    JsonRpcErrorResponse.deserialize response.serialize =
      some { response with error := response.error.withoutNull } := by
  have fields : structFields ["jsonrpc", "id", "error"] response.serialize = some [
      some (.string response.jsonrpc),
      some response.id.toValue.doc,
      some response.error.serialize] := structFields_structDoc rfl (by decide)
  rw [JsonRpcErrorResponse.deserialize, fields]
  simp [JsonRpcError.deserialize_serialize, Json.asStr]

/-- An error survives unless its data is a `null`. -/
theorem JsonRpcError.withoutNull_eq_self {error : JsonRpcError} :
    error.withoutNull = error ↔ error.data ≠ some .null := by
  obtain ⟨code, message, data⟩ := error
  cases data with
  | none => simp [JsonRpcError.withoutNull]
  | some data =>
      have null_iff : data.doc.isNull = true ↔ data = .null := by
        constructor
        · intro null
          apply Value.ext
          cases doc : data.doc with
          | null => rfl
          | _ => simp [doc, Json.isNull] at null
        · rintro rfl
          rfl
      cases null : data.doc.isNull with
      | true =>
          obtain rfl := null_iff.mp null
          simp [JsonRpcError.withoutNull, null]
      | false =>
          have other : data ≠ .null := fun same => by simp [null_iff.mpr same] at null
          simp [JsonRpcError.withoutNull, null, other]

/-! ## Texts -/

section Optional

variable {α : Type*} {write : α → Json} {field : Option α}

theorem integral_optionDoc
    (integral : ∀ value ∈ field, (write value).Integral) : (optionDoc write field).Integral := by
  cases field with
  | none => exact .null
  | some value => exact integral value rfl

theorem nesting_optionDoc {limit : Nat} :
    (optionDoc write field).nesting < limit + 1 ↔
      ∀ value ∈ field, (write value).nesting < limit + 1 := by
  cases field with
  | none => simp [optionDoc, Json.nesting]
  | some value => simp [optionDoc]

end Optional

theorem JsonRpcError.integral_fields {error : JsonRpcError}
    (integral : ∀ data ∈ error.data, data.doc.Integral) :
    ∀ field ∈ [
      ("code", (i32Value error.code).doc),
      ("message", .string error.message),
      ("data", optionDoc Value.doc error.data)], field.2.Integral := by
  have code : (i32Value error.code).doc.Integral := .integer _
  simp [code, integral_optionDoc integral, Json.Integral.string]

section Texts

variable [Json.Floats]

theorem JsonRpcRequest.decode_render {request : JsonRpcRequest}
    (integral : request.params.doc.Integral) :
    decode JsonRpcRequest.deserialize request.serialize.render =
      if request.params.doc.nesting < 127 then some request else none := by
  have id_integral : (optionDoc (fun id => id.toValue.doc) request.id).Integral :=
    integral_optionDoc fun id _ => id.integral_toValue
  have id_flat : (optionDoc (fun id => id.toValue.doc) request.id).nesting < 126 + 1 :=
    nesting_optionDoc.mpr fun id _ => by simp [id.nesting_toValue]
  rw [JsonRpcRequest.serialize, decode_structDoc
    (by simp [id_integral, integral, Json.Integral.string])]
  refine if_congr ?_ (JsonRpcRequest.deserialize_serialize request) rfl
  simp [Json.nestingLimit, Json.nesting, id_flat]

theorem JsonRpcResponse.decode_render {response : JsonRpcResponse}
    (integral : response.result.doc.Integral) :
    decode JsonRpcResponse.deserialize response.serialize.render =
      if response.result.doc.nesting < 127 then some response else none := by
  rw [JsonRpcResponse.serialize, decode_structDoc
    (by simp [RpcId.integral_toValue, integral, Json.Integral.string])]
  refine if_congr ?_ (JsonRpcResponse.deserialize_serialize response) rfl
  simp [Json.nestingLimit, Json.nesting, RpcId.nesting_toValue]

theorem JsonRpcError.decode_render {error : JsonRpcError}
    (integral : ∀ data ∈ error.data, data.doc.Integral) :
    decode JsonRpcError.deserialize error.serialize.render =
      if ∀ data ∈ error.data, data.doc.nesting < 127 then some error.withoutNull else none := by
  have code : (i32Value error.code).doc.nesting = 0 := rfl
  rw [JsonRpcError.serialize, decode_structDoc (JsonRpcError.integral_fields integral)]
  refine if_congr ?_ (JsonRpcError.deserialize_serialize error) rfl
  rw [← @nesting_optionDoc Value Value.doc error.data 126]
  simp [Json.nestingLimit, Json.nesting, code]

theorem JsonRpcErrorResponse.decode_render {response : JsonRpcErrorResponse}
    (integral : ∀ data ∈ response.error.data, data.doc.Integral) :
    decode JsonRpcErrorResponse.deserialize response.serialize.render =
      if ∀ data ∈ response.error.data, data.doc.nesting < 126 then
        some { response with error := response.error.withoutNull }
      else none := by
  have inner : response.error.serialize.Integral :=
    .object (JsonRpcError.integral_fields integral)
  have code : (i32Value response.error.code).doc.nesting = 0 := rfl
  rw [JsonRpcErrorResponse.serialize, decode_structDoc
    (by simp [RpcId.integral_toValue, inner, Json.Integral.string])]
  refine if_congr ?_ (JsonRpcErrorResponse.deserialize_serialize response) rfl
  rw [← @nesting_optionDoc Value Value.doc response.error.data 125]
  simp [Json.nestingLimit, Json.nesting, Json.nestingMembers, RpcId.nesting_toValue, code,
    JsonRpcError.serialize, structDoc]
  omega

/-- Requests and responses whose numbers are integers are read back as they were written, and so are
errors but for a `null` in their data, which is read as no data; one that is too deep is not read at
all.  Ids are read from strings and from integers which fit in a `u64`, and from nothing else. -/
theorem envelope_codec :
    (∀ request : JsonRpcRequest, request.params.doc.Integral →
      decode JsonRpcRequest.deserialize request.serialize.render =
        if request.params.doc.nesting < 127 then some request else none) ∧
    (∀ response : JsonRpcResponse, response.result.doc.Integral →
      decode JsonRpcResponse.deserialize response.serialize.render =
        if response.result.doc.nesting < 127 then some response else none) ∧
    (∀ error : JsonRpcError, (∀ data ∈ error.data, data.doc.Integral) →
      decode JsonRpcError.deserialize error.serialize.render =
        if ∀ data ∈ error.data, data.doc.nesting < 127 then some error.withoutNull else none) ∧
    (∀ response : JsonRpcErrorResponse, (∀ data ∈ response.error.data, data.doc.Integral) →
      decode JsonRpcErrorResponse.deserialize response.serialize.render =
        if ∀ data ∈ response.error.data, data.doc.nesting < 126 then
          some { response with error := response.error.withoutNull }
        else none) ∧
    (∀ error : JsonRpcError, error.withoutNull = error ↔ error.data ≠ some .null) ∧
    (∀ json id, RpcId.deserialize json = some id ↔ json = id.toValue.doc) ∧
    ∀ json, (RpcId.deserialize json).isSome = true ↔
      (∃ text, json = .string text) ∨
        ∃ integer : Json.Integer, json = .number (.integer integer) ∧ 0 ≤ integer.value :=
  ⟨fun _ => JsonRpcRequest.decode_render, fun _ => JsonRpcResponse.decode_render,
    fun _ => JsonRpcError.decode_render, fun _ => JsonRpcErrorResponse.decode_render,
    fun _ => JsonRpcError.withoutNull_eq_self, fun _ _ => RpcId.deserialize_eq_some,
    fun _ => RpcId.deserialize_isSome⟩

end Texts

/-! ## What does not come back -/

section Failing

/-- A value of nothing but arrays. -/
def brackets : Nat → Value
  | 0 => .null
  | depth + 1 => .array [brackets depth]

theorem plain_brackets (depth : Nat) : (brackets depth).Plain depth := by
  induction depth with
  | zero => exact Value.plain_null
  | succ depth ih => exact Value.plain_array (by simpa using ih)

theorem nesting_brackets (depth : Nat) : (brackets depth).doc.nesting = depth := by
  induction depth with
  | zero => rfl
  | succ depth ih =>
      have inner : (brackets (depth + 1)).doc.nesting = max (brackets depth).doc.nesting 0 + 1 :=
        rfl
      rw [inner, ih, Nat.max_zero]

attribute [local instance] Json.Floats.verbatim

/-- An error whose data is a `null` comes back without data, and a result which is too deep does not
come back. -/
theorem not_envelope_codec :
    (¬∀ error : JsonRpcError, (∀ data ∈ error.data, data.doc.Integral) →
      decode JsonRpcError.deserialize error.serialize.render = some error) ∧
    ¬∀ response : JsonRpcResponse, response.result.doc.Integral →
      decode JsonRpcResponse.deserialize response.serialize.render = some response := by
  constructor
  · intro survives
    have integral : ∀ data ∈ some Value.null, data.doc.Integral := by
      simpa [Value.null] using Json.Integral.null
    have back := survives ⟨-32603, "boom", some .null⟩ integral
    rw [JsonRpcError.decode_render integral] at back
    split at back
    · exact JsonRpcError.withoutNull_eq_self.mp (Option.some.inj back) rfl
    · cases back
  · intro survives
    have integral := (plain_brackets 127).integral
    have back := survives ⟨"2.0", .number 1, brackets 127⟩ integral
    rw [JsonRpcResponse.decode_render integral, if_neg (by simp [nesting_brackets])] at back
    cases back

end Failing

end TeamComm
