import TeamComm.Rust

/-!
# JSON-RPC envelopes

The request and response envelopes, how each one serialises, and how the derived readers accept a
document: an object in which no field of the record repeats, or an array of exactly its fields.
-/

namespace TeamComm

open Json (Value)

/-! ## Derived readers -/

/-- The fields which a derived reader finds in a document, in the order of the record. -/
def structFields (names : List String) : Json → Option (List (Option Json))
  | .object members =>
      if ((members.map Prod.fst).filter fun name => name ∈ names).Nodup then
        some (names.map fun name => members.lookup name)
      else none
  | .array items => if items.length = names.length then some (items.map some) else none
  | _ => none

/-- A derived writer stores the fields in the order of the record. -/
def structDoc (fields : List (String × Json)) : Json := .object fields

/-- An optional field is written as `null` when there is nothing in it. -/
def optionDoc {α : Type*} (write : α → Json) : Option α → Json
  | none => .null
  | some value => write value

/-- An optional field: absent and `null` are the same. -/
def optionField {α : Type*} (read : Json → Option α) : Option Json → Option (Option α)
  | none => some none
  | some .null => some none
  | some json => (read json).map some

theorem optionField_some {α : Type*} (read : Json → Option α) (json : Json) :
    optionField read (some json) = if json.isNull then some none else (read json).map some := by
  cases json <;> rfl

/-- An optional field is read back unless `null` was written for what is in it. -/
theorem optionField_optionDoc {α : Type*} {read : Json → Option α} {write : α → Json}
    (inverse : ∀ value, read (write value) = some value) (field : Option α) :
    optionField read (some (optionDoc write field)) =
      some (field.filter fun value => !(write value).isNull) := by
  rw [optionField_some]
  cases field with
  | none => rfl
  | some value =>
      rw [optionDoc, inverse, Option.filter_some]
      cases (write value).isNull <;> rfl

private theorem lookup_field {fields : List (String × Json)}
    (distinct : (fields.map Prod.fst).Nodup) :
    ∀ field ∈ fields, fields.lookup field.1 = some field.2 := by
  induction fields with
  | nil => simp
  | cons head tail ih =>
      rw [List.map_cons, List.nodup_cons] at distinct
      intro field member
      rw [Json.lookup_cons_eq_ite]
      rcases List.mem_cons.mp member with rfl | later
      · rw [if_pos rfl]
      · have other : field.1 ≠ head.1 := fun same =>
          distinct.1 (same ▸ List.mem_map_of_mem later)
        rw [if_neg other, ih distinct.2 field later]

/-- The fields of a record are found under their names. -/
theorem structFields_structDoc {names : List String} {fields : List (String × Json)}
    (named : fields.map Prod.fst = names) (distinct : names.Nodup) :
    structFields names (structDoc fields) = some (fields.map fun field => some field.2) := by
  subst named
  refine (if_pos (distinct.filter _)).trans (congrArg some ?_)
  rw [List.map_map]
  exact List.map_congr_left (lookup_field distinct)

/-- The fields of a value which is an object. -/
theorem structFields_object (names : List String) (members : List (String × Value)) :
    structFields names (Value.object members).doc =
      some (names.map fun name => (Value.object members).get name) := by
  have sorted := Json.sorted_sortMembers (members.map fun entry => (entry.1, entry.2.doc))
  have distinct := (sorted.map Prod.fst fun _ _ below => below).imp fun below => ne_of_lt below
  exact if_pos (distinct.filter _)

/-! ## Identifiers -/

/-- A request id: a string or a non-negative integer. -/
inductive RpcId
  | string (text : String)
  | number (value : UInt64)
  deriving DecidableEq

namespace RpcId

def toValue : RpcId → Value
  | .string text => .string text
  | .number value => .u64 value

/-- `RpcIdVisitor`: strings and non-negative integers only. -/
def deserialize : Json → Option RpcId
  | .string text => some (.string text)
  | json => json.asU64.map .number

@[simp] theorem deserialize_toValue (id : RpcId) : deserialize id.toValue.doc = some id := by
  cases id with
  | string text => rfl
  | number value => exact congrArg (Option.map RpcId.number) (Json.Value.asU64_u64 value)

end RpcId

/-! ## Envelopes -/

/-- A request envelope; without an id it is a notification. -/
structure JsonRpcRequest where
  /-- Protocol version, by convention `"2.0"`. -/
  jsonrpc : String
  /-- Request id, none for a notification. -/
  id : Option RpcId
  /-- Method name. -/
  method : String
  /-- Method-specific parameters. -/
  params : Value

def JsonRpcRequest.serialize (request : JsonRpcRequest) : Json :=
  structDoc [
    ("jsonrpc", .string request.jsonrpc),
    ("id", optionDoc (fun id => id.toValue.doc) request.id),
    ("method", .string request.method),
    ("params", request.params.doc)]

def JsonRpcRequest.deserialize (json : Json) : Option JsonRpcRequest := do
  match ← structFields ["jsonrpc", "id", "method", "params"] json with
  | [jsonrpc, id, method, params] =>
      let jsonrpc ← jsonrpc.bind Json.asStr
      let id ← optionField RpcId.deserialize id
      let method ← method.bind Json.asStr
      let params ← params
      return { jsonrpc, id, method, params := .ofJson params }
  | _ => none

/-- A success response. -/
@[ext]
structure JsonRpcResponse where
  /-- Protocol version. -/
  jsonrpc : String
  /-- Echo of the request id. -/
  id : RpcId
  /-- Method-specific result. -/
  result : Value

def JsonRpcResponse.serialize (response : JsonRpcResponse) : Json :=
  structDoc [
    ("jsonrpc", .string response.jsonrpc),
    ("id", response.id.toValue.doc),
    ("result", response.result.doc)]

def JsonRpcResponse.deserialize (json : Json) : Option JsonRpcResponse := do
  match ← structFields ["jsonrpc", "id", "result"] json with
  | [jsonrpc, id, result] =>
      let jsonrpc ← jsonrpc.bind Json.asStr
      let id ← id.bind RpcId.deserialize
      let result ← result
      return { jsonrpc, id, result := .ofJson result }
  | _ => none

/-- `i32` as a value. -/
def i32Value (code : Int32) : Value :=
  .integer ⟨code.toInt, by have := code.le_toInt; omega, by have := code.toInt_lt; omega⟩

/-- `i32::deserialize`. -/
def readI32 (json : Json) : Option Int32 :=
  json.asInteger.bind fun value =>
    if -(2 ^ 31) ≤ value ∧ value < 2 ^ 31 then some (Int32.ofInt value) else none

@[simp] theorem readI32_i32Value (code : Int32) : readI32 (i32Value code).doc = some code := by
  have lower := code.le_toInt
  have upper := code.toInt_lt
  simp only [readI32, i32Value, Value.integer, Json.asInteger, Option.bind_some]
  rw [if_pos ⟨by omega, by omega⟩, Int32.ofInt_toInt]

/-- The error object of an error response. -/
structure JsonRpcError where
  /-- Numeric error code. -/
  code : Int32
  /-- Description of the error. -/
  message : String
  /-- Optional structured data. -/
  data : Option Value

def JsonRpcError.serialize (error : JsonRpcError) : Json :=
  structDoc [
    ("code", (i32Value error.code).doc),
    ("message", .string error.message),
    ("data", optionDoc Value.doc error.data)]

def JsonRpcError.deserialize (json : Json) : Option JsonRpcError := do
  match ← structFields ["code", "message", "data"] json with
  | [code, message, data] =>
      let code ← code.bind readI32
      let message ← message.bind Json.asStr
      let data ← optionField (fun json => some (.ofJson json)) data
      return { code, message, data }
  | _ => none

/-- An error response. -/
structure JsonRpcErrorResponse where
  /-- Protocol version. -/
  jsonrpc : String
  /-- Echo of the request id. -/
  id : RpcId
  /-- The error object. -/
  error : JsonRpcError

def JsonRpcErrorResponse.serialize (response : JsonRpcErrorResponse) : Json :=
  structDoc [
    ("jsonrpc", .string response.jsonrpc),
    ("id", response.id.toValue.doc),
    ("error", response.error.serialize)]

def JsonRpcErrorResponse.deserialize (json : Json) : Option JsonRpcErrorResponse := do
  match ← structFields ["jsonrpc", "id", "error"] json with
  | [jsonrpc, id, error] =>
      let jsonrpc ← jsonrpc.bind Json.asStr
      let id ← id.bind RpcId.deserialize
      let error ← error.bind JsonRpcError.deserialize
      return { jsonrpc, id, error }
  | _ => none

end TeamComm
