import TeamComm.Client.Methods

/-!
# MCP manifest

The tools which the server advertises, each with the schema of its arguments.  A schema describes an
object: the members it must have, and for each member it may have what stands in it.  Members which
the schema does not name are not allowed.
-/

namespace TeamComm

open Json (Value)

namespace Mcp

/-- The type of a property. -/
inductive PropertyType
  | string
  | integer
  | boolean
  | object

namespace PropertyType

/-- A document is of a type. -/
def admits (json : Json) : PropertyType → Bool
  | string => json.asStr.isSome
  | integer => json.asInteger.isSome
  | boolean => json.asBool.isSome
  | object => json.asObject.isSome

end PropertyType

/-- What may stand in a property. -/
structure Property where
  /-- The type of the property. -/
  type : PropertyType
  /-- The texts to choose from, when there is a choice. -/
  enum : Option (List String) := none
  /-- The least integer allowed. -/
  minimum : Option Int := none

/-- A document may stand in a property. -/
def Property.admits (property : Property) (json : Json) : Bool :=
  property.type.admits json &&
    property.enum.all (fun texts => json.asStr.all fun text => text ∈ texts) &&
    property.minimum.all fun least => json.asInteger.all fun value => least ≤ value

/-- The schema of an arguments object. -/
structure Schema where
  /-- Names of the members which must be there. -/
  required : List String := []
  /-- What may stand in each member. -/
  properties : List (String × Property)

/-- An arguments object satisfies a schema. -/
def Schema.admits (schema : Schema) (args : Value) : Bool :=
  match args.doc.asObject with
  | some members =>
      (schema.required.all fun name => (members.lookup name).isSome) &&
        members.all fun entry =>
          (schema.properties.lookup entry.1).any fun property => property.admits entry.2
  | none => false

/-- A tool as it is advertised. -/
structure ToolDef where
  /-- Name of the tool. -/
  name : String
  /-- Schema of its arguments. -/
  params : Schema

private def text : Property := { type := .string }

private def choice (texts : List String) : Property := { type := .string, enum := texts }

private def positive : Property := { type := .integer, minimum := some 1 }

/-- The tools of the manifest. -/
def advertisedTools : List ToolDef := [
  { name := "register_session"
    params.required := ["agent_id", "role"]
    params.properties := [
      ("agent_id", text), ("role", text), ("focus", text), ("metadata", { type := .object })] },
  { name := "deregister_session"
    params.required := ["session_id"]
    params.properties := [("session_id", text)] },
  { name := "list_sessions"
    params.properties := [("role", text), ("focus_contains", text)] },
  { name := "claim_file"
    params.required := ["session_id", "path", "mode"]
    params.properties := [
      ("session_id", text), ("path", text), ("mode", choice ["exclusive", "shared"]),
      ("ttl_sec", positive), ("reason", text)] },
  { name := "release_file"
    params.required := ["reservation_id"]
    params.properties := [("session_id", text), ("reservation_id", text)] },
  { name := "list_claims"
    params.properties := [
      ("session_id", text), ("path_prefix", text), ("mode", choice ["exclusive", "shared"])] },
  { name := "post_message"
    params.required := ["session_id", "body"]
    params.properties := [
      ("session_id", text), ("to", text), ("topic", text),
      ("kind", choice ["info", "request", "response", "alert"]), ("body", text),
      ("metadata", { type := .object })] },
  { name := "read_inbox"
    params.required := ["session_id"]
    params.properties := [("session_id", text), ("limit", positive), ("since", text)] },
  { name := "announce_focus"
    params.required := ["session_id", "focus"]
    params.properties := [("session_id", text), ("focus", text)] },
  { name := "set_status"
    params.required := ["session_id", "status"]
    params.properties := [
      ("session_id", text), ("status", choice ["idle", "busy", "blocked", "done"]),
      ("message", text)] },
  { name := "discover_agents_for_path"
    params.required := ["path"]
    params.properties := [("path", text), ("include_idle", { type := .boolean })] }]

def knownToolNames : List String := [
  "register_session",
  "deregister_session",
  "list_sessions",
  "claim_file",
  "release_file",
  "list_claims",
  "post_message",
  "read_inbox",
  "announce_focus",
  "set_status",
  "discover_agents_for_path"]

theorem knownToolNames_eq : knownToolNames = advertisedTools.map ToolDef.name := rfl

end Mcp

end TeamComm
