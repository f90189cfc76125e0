import TeamComm.Cli.Run
import TeamComm.Properties.ClientPairing

/-!
# Calls of the command line

A subcommand writes its request once and reads one line.  Wherever the stream breaks in either
direction, and whether a task of the daemon reads the request or not, the daemon dispatches it once
or not at all, and the subcommand reports what the daemon has made of it or that it does not know.
-/

namespace TeamComm

open Json (Value)

/-- Trimming a text which begins with no blank leaves a front of it. -/
theorem trim_prefix {text : String}
    (first : ∀ char ∈ text.toList.head?, isWhitespace char = false) :
    (trim text).toList <+: text.toList := by
  have front : text.toList.dropWhile isWhitespace = text.toList := by
    cases chars : text.toList with
    | nil => rfl
    | cons char rest => exact List.dropWhile_cons_of_neg (by simp [first char (by simp [chars])])
  have back := List.dropWhile_suffix isWhitespace (l := text.toList.reverse)
  rw [trim, front, String.toList_ofList]
  simpa using List.reverse_prefix.mpr back

/-- Blanks behind a text between braces are trimmed. -/
theorem trim_braced {record inner : String} {back : List Char}
    (braced : record = String.singleton '\x7b' ++ inner ++ String.singleton '\x7d')
    (blank : ∀ char ∈ back, isWhitespace char = true) :
    trim (String.ofList (record.toList ++ back)) = record := by
  have opened : isWhitespace '\x7b' = false := by decide
  have closed : isWhitespace '\x7d' = false := by decide
  have dropped :
      (record.toList ++ back).reverse.dropWhile isWhitespace = record.toList.reverse := by
    rw [List.reverse_append, List.dropWhile_append_of_pos (by simpa using blank)]
    simp [braced, closed]
  have kept : (record.toList ++ back).dropWhile isWhitespace = record.toList ++ back := by
    simp [braced, opened]
  rw [trim, String.toList_ofList, kept, dropped, List.reverse_reverse, String.ofList_toList]

/-- A front of a line is all of its text, or a part of it which something is missing of. -/
theorem prefix_line {text part : List Char} (inside : part <+: text ++ ['\n']) :
    part = text ++ ['\n'] ∨ part = text ∨ ∃ back, back ≠ [] ∧ text = part ++ back := by
  rcases List.prefix_concat_iff.mp inside with whole | ⟨back, cut⟩
  · exact .inl whole
  · by_cases complete : back = []
    · exact .inr (.inl (by rw [← cut, complete, List.append_nil]))
    · exact .inr (.inr ⟨back, complete, cut.symm⟩)

/-- What a subcommand sends is flat and holds no numbers but integers. -/
theorem CliCommand.plain_sent {command : CliCommand} {call : MethodCall}
    (sent : command.sent = some call) : call.params.Plain 2 := by
  have path {argument : ArgPath} {value : Value} (encoded : argument.toValue = some value) :
      value.Plain 1 := by
    cases argument with
    | text path => exact Option.some.inj encoded ▸ path.plain_toValue
    | bytes bytes => cases encoded
  have optional {argument : Option ArgPath} {value : Value}
      (encoded : optionalPath argument = some value) : value.Plain 1 := by
    cases argument with
    | none => exact Option.some.inj encoded ▸ Value.plain_null
    | some argument => exact path encoded
  cases command with
  | sessionsShow | reservationsRelease | inboxList | inboxRead | inboxPost | stateShow
  | stateSetStatus => exact Option.some.inj sent ▸ Value.plain_object (by simp)
  | reservationsLs argument =>
      obtain ⟨value, encoded, written⟩ := Option.bind_eq_some_iff.mp sent
      exact Option.some.inj written ▸ Value.plain_object (by simp [optional encoded])
  | reservationsClaim argument session mode ttlSec =>
      obtain ⟨value, encoded, written⟩ := Option.bind_eq_some_iff.mp sent
      exact Option.some.inj written ▸ Value.plain_object (by simp [path encoded])
  | stateSetFocus argument session =>
      obtain ⟨value, encoded, written⟩ := Option.bind_eq_some_iff.mp sent
      exact Option.some.inj written ▸ Value.plain_object (by simp [path encoded])
  | discoverAgents argument branch capability =>
      obtain ⟨value, encoded, written⟩ := Option.bind_eq_some_iff.mp sent
      exact Option.some.inj written ▸
        Value.plain_object (by simp [optional encoded, plain_strings])

namespace Cli

/-- The calls of the command line. -/
def IsCommand (call : MethodCall) : Prop :=
  call = ⟨"daemon.shutdown", .object []⟩ ∨ ∃ command : CliCommand, command.sent = some call

theorem IsCommand.plain {call : MethodCall} (command : IsCommand call) : call.params.Plain 2 := by
  rcases command with rfl | ⟨command, sent⟩
  · exact Value.plain_object (by simp)
  · exact command.plain_sent sent

/-- The request of a flat call is within the limits of a reader. -/
theorem integral_request {call : MethodCall} (plain : call.params.Plain 2) :
    (Json.object (request call)).Integral := by
  have id : (Value.u64 1).doc.Integral := .integer _
  exact .object (by simp [request, id, plain.integral, Json.Integral.string])

theorem nesting_request {call : MethodCall} (plain : call.params.Plain 2) :
    (Json.object (request call)).nesting ≤ Json.nestingLimit := by
  have id : (Value.u64 1).doc.nesting = 0 := rfl
  have members : Json.nestingMembers (request call) ≤ 2 :=
    Json.nestingMembers_le.mpr (by simp [request, Json.nesting, id, plain.nesting])
  exact (Nat.succ_le_succ members).trans (by decide)

theorem trimLineEnd_prefix (line : List Char) : trimLineEnd line <+: line := by
  have back := List.dropWhile_suffix (fun char => decide (char = '\n' ∨ char = '\r'))
    (l := line.reverse)
  unfold trimLineEnd
  simpa using List.reverse_prefix.mpr back

theorem deserialize_request (call : MethodCall) :
    JsonRpcRequest.deserialize (.object (request call)) = some {
      jsonrpc := "2.0", id := some (.number 1), method := call.method, params := call.params } := by
  have id : optionField RpcId.deserialize (some (Value.u64 1).doc) = some (some (.number 1)) :=
    congrArg (Option.map some) (RpcId.deserialize_toValue (.number 1))
  have fields : structFields ["jsonrpc", "id", "method", "params"] (structDoc (request call)) =
      some ((request call).map fun field => some field.2) :=
    structFields_structDoc rfl (by decide)
  rw [JsonRpcRequest.deserialize]
  change (structFields _ (structDoc (request call)) >>= _) = _
  rw [fields]
  simp [request, id, Json.asStr]

/-- The end of a line behind a closing brace is trimmed. -/
theorem trimLineEnd_braced {record inner : String} {back : List Char}
    (braced : record = String.singleton '\x7b' ++ inner ++ String.singleton '\x7d')
    (ends : ∀ char ∈ back, char = '\n' ∨ char = '\r') :
    trimLineEnd (record.toList ++ back) = record.toList := by
  have dropped : (record.toList ++ back).reverse.dropWhile
      (fun char => decide (char = '\n' ∨ char = '\r')) = record.toList.reverse := by
    rw [List.reverse_append, List.dropWhile_append_of_pos (by simpa using ends)]
    simp [braced]
  rw [trimLineEnd, dropped, List.reverse_reverse]

section Requests

variable [SerdeRecords]

/-- The text of a request. -/
def record (call : MethodCall) : String := SerdeRecords.docToString (.object (request call))

/-- What a request asks for, if it is not too long. -/
def asked (call : MethodCall) (env : Env) : Option (RpcId × Call) :=
  if maxLineBytes < (record call).utf8ByteSize then none
  else some (.number 1, ⟨call.method, call.params, env⟩)

theorem not_blank_record {text : String} {call : MethodCall} (trimmed : trim text = record call) :
    ¬Blank text := by
  obtain ⟨inner, braced⟩ := SerdeRecords.doc_braces (request call)
  intro blank
  have empty := congrArg String.toList ((trimmed.symm.trans blank).symm.trans braced)
  simp at empty

theorem requestCall_record {text : String} {call : MethodCall} (plain : call.params.Plain 2)
    (trimmed : trim text = record call) (env : Env) :
    requestCall (text, env) = asked call env := by
  have found : requestOf text = some {
      jsonrpc := "2.0", id := some (.number 1), method := call.method, params := call.params } := by
    rw [requestOf, trimmed, record, SerdeRecords.fromStr_docToString _ (integral_request plain)
      (nesting_request plain), Option.bind_some, deserialize_request]
  have not_blank := not_blank_record trimmed
  unfold requestCall asked parsed
  by_cases oversize : Oversize text
  · have too_long : maxLineBytes < (record call).utf8ByteSize := trimmed ▸ oversize
    rw [if_pos (.inr oversize), if_pos too_long]
    rfl
  · have short : ¬maxLineBytes < (record call).utf8ByteSize := trimmed ▸ oversize
    rw [if_neg (not_or.mpr ⟨not_blank, oversize⟩), if_neg short, found]
    rfl

/-- A request which breaks off asks for nothing. -/
theorem requestCall_cut {part back : List Char} {call : MethodCall} (missing : back ≠ [])
    (cut : (record call).toList = part ++ back) (env : Env) :
    requestCall (String.ofList part, env) = none := by
  obtain ⟨inner, braced⟩ := SerdeRecords.doc_braces (request call)
  have opened : ∀ char ∈ part.head?, isWhitespace char = false := by
    intro char first
    have head : (record call).toList.head? = some '\x7b' := by
      rw [record, braced]
      simp
    rw [cut, List.head?_append, Option.mem_def.mp first] at head
    obtain rfl : char = '\x7b' := Option.some.inj head
    decide
  have inside : (trim (String.ofList part)).toList <+: (String.ofList part).toList :=
    trim_prefix (by simpa using opened)
  rw [String.toList_ofList] at inside
  obtain ⟨rest, front⟩ := inside
  have unreadable : SerdeJson.fromStr (trim (String.ofList part)) = none := by
    refine SerdeRecords.fromStr_doc_cut (request call) _ (String.ofList (rest ++ back)) ?_ ?_
    · apply String.ext
      rw [String.toList_append, String.toList_ofList, ← List.append_assoc, front]
      exact cut
    · simp [missing]
  have no_request : parsed (String.ofList part) = none := by
    unfold parsed
    split
    · rfl
    · rw [requestOf, unreadable]
      rfl
  unfold requestCall
  rw [no_request]
  rfl

theorem trim_request (call : MethodCall) :
    trim (String.ofList (requestText call)) = record call := by
  obtain ⟨inner, braced⟩ := SerdeRecords.doc_braces (request call)
  refine trim_braced braced fun char back => ?_
  rw [List.mem_singleton.mp back]
  decide

/-- What arrives of a request is the whole of it, or breaks off. -/
theorem trim_part {part : List Char} {call : MethodCall} (inside : part <+: requestText call) :
    trim (String.ofList part) = record call ∨
      ∃ back, back ≠ [] ∧ (record call).toList = part ++ back := by
  obtain ⟨inner, braced⟩ := SerdeRecords.doc_braces (request call)
  rcases prefix_line inside with rfl | rfl | cut
  · exact .inl (trim_request call)
  · have whole : trim (String.ofList ((record call).toList ++ [])) = record call :=
      trim_braced braced (by simp)
    rw [List.append_nil] at whole
    exact .inl whole
  · exact .inr cut

end Requests

/-! ## Responses -/

/-- How a call reports what the daemon has made of it. -/
def reported : Except Failure Value → Except RpcCallError Value
  | .ok result => .ok result
  | .error (.error error) =>
      if error.rpcCode = -32601 then .error (.methodNotFound error.display)
      else .error (.server error.rpcCode error.display none)
  | .error (.panic _) =>
      .error (.server (-32099) "daemon closed connection before sending a response" none)

/-- A call which does not know what the daemon has made of it. -/
def Lost : Except RpcCallError Value → Prop
  | .error (.transport _) => True
  | .error (.server code _ _) => code = -32099 ∨ code = -32700
  | _ => False

theorem readResult_successEnvelope (id : RpcId) (result : Value) :
    readResult (Listener.successEnvelope id result).doc = some result := by
  rw [Listener.successEnvelope, readResult, structFields_object]
  simp [Value.get_object, Json.lookup_cons_eq_ite]

theorem readResult_errorEnvelope (id : RpcId) (error : TeamcommError) :
    readResult (Listener.errorEnvelope id error).doc = none := by
  rw [Listener.errorEnvelope, readResult, structFields_object]
  simp [Value.get_object, Json.lookup_cons_eq_ite]

theorem readError_errorEnvelope (id : RpcId) (error : TeamcommError) :
    readError (Listener.errorEnvelope id error).doc = some error.toRpcError := by
  rw [Listener.errorEnvelope, readError, structFields_object]
  simp [Value.get_object, Json.lookup_cons_eq_ite]

section Responses

variable [SerdeRecords]

/-- A response which arrives is what the daemon has made of the call. -/
theorem readResponse_answer {id : RpcId} {output : Except Failure Value} {envelope : Value}
    (plain : ∀ result, output = .ok result → result.Plain resultDepth)
    (replied : answer id output = .reply envelope) :
    readResponse (SerdeJson.toString envelope) = reported output := by
  obtain ⟨-, -, readable⟩ := readable_answer plain replied
  unfold readResponse
  rw [SerdeValues.fromStr_toString _ readable, Option.bind_some, Option.bind_some]
  rcases output with ⟨error | message⟩ | result
  · obtain rfl := LineOutcome.reply.inj replied
    rw [readResult_errorEnvelope, readError_errorEnvelope]
    rfl
  · cases replied
  · obtain rfl := LineOutcome.reply.inj replied
    rw [readResult_successEnvelope]
    rfl

theorem lost_unreadable {line : String} (unreadable : SerdeJson.fromStr line = none) :
    Lost (readResponse line) := by
  unfold readResponse
  rw [unreadable]
  exact .inr rfl

/-- A response which arrives is understood, whether its newline arrives or not. -/
theorem callOnStream_whole {members : List (String × Value)} {back : List Char}
    (ends : ∀ char ∈ back, char = '\n' ∨ char = '\r') :
    callOnStream (.ok ()) (.ok ((SerdeJson.toString (.object members)).toList ++ back)) =
      readResponse (SerdeJson.toString (.object members)) := by
  obtain ⟨inner, braced⟩ := SerdeText.braces members
  have trimmed := trimLineEnd_braced braced ends
  cases chars : (SerdeJson.toString (.object members)).toList ++ back with
  | nil =>
      rw [braced] at chars
      simp at chars
  | cons first rest =>
      rw [chars] at trimmed
      change readResponse (String.ofList (trimLineEnd (first :: rest))) = _
      rw [trimmed, String.ofList_toList]

/-- What arrives of a response is understood as the whole of it, or not at all. -/
theorem callOnStream_part {members : List (String × Value)} {part : List Char}
    (inside : part <+: (SerdeJson.toString (.object members)).toList ++ ['\n']) :
    Lost (callOnStream (.ok ()) (.ok part)) ∨
      callOnStream (.ok ()) (.ok part) =
        readResponse (SerdeJson.toString (.object members)) := by
  rcases prefix_line inside with rfl | rfl | ⟨back, missing, cut⟩
  · exact .inr (callOnStream_whole (by simp))
  · have whole : callOnStream (.ok ()) (.ok ((SerdeJson.toString (.object members)).toList ++ [])) =
        readResponse (SerdeJson.toString (.object members)) := callOnStream_whole (by simp)
    rw [List.append_nil] at whole
    exact .inr whole
  · left
    cases part with
    | nil => exact .inl rfl
    | cons first rest =>
        obtain ⟨dropped, front⟩ := trimLineEnd_prefix (first :: rest)
        refine lost_unreadable ?_
        refine SerdeText.fromStr_cut members _ (String.ofList (dropped ++ back)) ?_
          (by simp [missing])
        apply String.ext
        rw [String.toList_append, String.toList_ofList, String.toList_ofList, ← List.append_assoc,
          front]
        exact cut

end Responses

/-! ## Calls -/

section Exchange

variable [Chrono] [SerdeRecords]

/-- What the daemon makes of a call whose request arrives. -/
def computed (call : MethodCall) (env : Env) (state : AppStateInner) :
    Except Failure Value × AppStateInner :=
  if maxLineBytes < (record call).utf8ByteSize then
    (.error (.error (.invalidParams s!"line exceeds MAX_LINE_BYTES ({maxLineBytes})")), state)
  else daemon.step state ⟨call.method, call.params, env⟩

theorem plain_computed {call : MethodCall} {env : Env} {state : AppStateInner} {result : Value}
    (answered : (computed call env state).1 = .ok result) : result.Plain resultDepth := by
  unfold computed at answered
  split at answered
  · cases answered
  · exact plain_step answered

/-- A request which arrives is dispatched and answered. -/
theorem processLine_record {text : String} {call : MethodCall} (plain : call.params.Plain 2)
    (trimmed : trim text = record call) (env : Env) (state : AppStateInner) :
    ∃ id, processLine text env state =
      (answer id (computed call env state).1, (computed call env state).2) := by
  unfold computed
  by_cases oversize : Oversize text
  · have too_long : maxLineBytes < (record call).utf8ByteSize := trimmed ▸ oversize
    rw [if_pos too_long]
    exact ⟨.number 0, processLine_oversize env state (not_blank_record trimmed) oversize⟩
  · have short : ¬maxLineBytes < (record call).utf8ByteSize := trimmed ▸ oversize
    have request := requestCall_record plain trimmed env
    rw [asked, if_neg short] at request
    rw [if_neg short]
    exact ⟨.number 1, processLine_request env state request⟩

/-- Nothing comes of a request which no task reads. -/
theorem respond_unserved (sent : List Char) (env : Env) (state : AppStateInner) :
    respond state sent false env = ("", state) :=
  if_pos (.inr rfl)

theorem respond_state {sent : List Char} (arrived : sent ≠ []) (env : Env) (state : AppStateInner) :
    (respond state sent true env).2 = (processLine (String.ofList sent) env state).2 := by
  rw [respond, if_neg (by simp [arrived])]
  simp only [handleConnection]
  rcases processLine (String.ofList sent) env state with ⟨silent | envelope | dies, after⟩
  all_goals rfl

section Written

variable {call : MethodCall}

/-- What a request which is read has the daemon write. -/
theorem respond_record (plain : call.params.Plain 2) (env : Env) (state : AppStateInner) :
    (respond state (requestText call) true env).2 = (computed call env state).2 ∧
      ((∃ members, (respond state (requestText call) true env).1 =
          SerdeJson.toString (.object members) ++ "\n" ∧
          readResponse (SerdeJson.toString (.object members)) =
            reported (computed call env state).1) ∨
        (respond state (requestText call) true env).1 = "" ∧
          reported (computed call env state).1 =
            .error
              (.server (-32099) "daemon closed connection before sending a response" none)) := by
  have nonempty : requestText call ≠ [] := by simp [requestText]
  rw [respond, if_neg (by simp [nonempty])]
  obtain ⟨id, processed⟩ := processLine_record plain (trim_request call) env state
  have flat : ∀ result, (computed call env state).1 = .ok result → result.Plain resultDepth :=
    fun _ => plain_computed
  generalize computed call env state = outcome at processed flat
  obtain ⟨output, after⟩ := outcome
  rcases answer_cases id output with ⟨members, replied, -⟩ | dies
  · have handled : handleConnection "" state [(String.ofList (requestText call), env)] =
        (writeEnvelope "" (.object members), after) := by
      simp only [handleConnection, processed, replied]
    rw [handled]
    refine ⟨rfl, .inl ⟨members, ?_, readResponse_answer flat replied⟩⟩
    rw [writeEnvelope, String.empty_append]
  · have handled : handleConnection "" state [(String.ofList (requestText call), env)] =
        ("", after) := by
      simp only [handleConnection, processed, dies]
    rw [handled]
    refine ⟨rfl, .inr ⟨rfl, ?_⟩⟩
    rcases output with ⟨error | message⟩ | result
    · cases dies
    · rfl
    · cases dies

/-- A request of which a part arrives is dispatched once or not at all. -/
theorem respond_part (plain : call.params.Plain 2) {part : List Char}
    (inside : part <+: requestText call) (served : Bool) (env : Env) (state : AppStateInner) :
    (respond state part served env).2 = state ∨
      (respond state part served env).2 = (computed call env state).2 := by
  cases served with
  | false => exact .inl (by rw [respond_unserved])
  | true =>
      by_cases empty : part = []
      · exact .inl (by rw [empty]; rfl)
      · rw [respond_state empty]
        rcases trim_part inside with trimmed | ⟨back, missing, cut⟩
        · obtain ⟨id, processed⟩ := processLine_record plain trimmed env state
          exact .inr (congrArg Prod.snd processed)
        · exact .inl (processLine_other env state (requestCall_cut missing cut env))

/-- What is read of a response which arrives, or of a part of it. -/
theorem read_response (plain : call.params.Plain 2) {env : Env} {state : AppStateInner}
    (wire : Wire) (unfaulted : wire.readFault = none) :
    (Lost (callOnStream (.ok ()) (wire.read (respond state (requestText call) true env).1)) ∨
      callOnStream (.ok ()) (wire.read (respond state (requestText call) true env).1) =
        reported (computed call env state).1) ∧
      ((respond state (requestText call) true env).1.length ≤ wire.arrives →
        callOnStream (.ok ()) (wire.read (respond state (requestText call) true env).1) =
          reported (computed call env state).1) := by
  rw [Wire.read, unfaulted]
  rcases (respond_record plain env state).2 with ⟨members, response, understood⟩ | ⟨silent, lost⟩
  · have chars : (respond state (requestText call) true env).1.toList =
        (SerdeJson.toString (.object members)).toList ++ ['\n'] := by
      rw [response, String.toList_append]
      rfl
    have line := Lines.readLine_prefix (SerdeJson.solid (.object members))
      (List.take_prefix wire.arrives ((SerdeJson.toString (.object members)).toList ++ ['\n']))
    rw [← String.length_toList, chars, line, ← understood]
    refine ⟨callOnStream_part (List.take_prefix _ _), fun enough => ?_⟩
    rw [List.take_of_length_le enough]
    exact callOnStream_whole (by simp)
  · have nothing : callOnStream (.ok ())
        (.ok (Lines.readLine (("" : String).toList.take wire.arrives)).1) =
          reported (computed call env state).1 := by
      rw [lost, String.toList_empty, List.take_nil]
      rfl
    rw [silent]
    exact ⟨.inr nothing, fun _ => nothing⟩

end Written

/-- A call whose request is written. -/
theorem exchange_written {wire : Wire} (unfaulted : wire.writeFault = none) (state : AppStateInner)
    (call : MethodCall) (env : Env) : exchange state call env wire =
      (callOnStream (.ok ()) (wire.read (respond state (requestText call) wire.served env).1),
        (respond state (requestText call) wire.served env).2) := by
  rw [exchange, Wire.write, unfaulted]
  rfl

/-- A call whose request breaks off, and which nobody waits for. -/
theorem exchange_broken {wire : Wire} {broken : Nat × String}
    (fault : wire.writeFault = some broken) (state : AppStateInner) (call : MethodCall)
    (env : Env) :
    exchange state call env wire =
      (.error (.transport s!"write: {broken.2}"),
        (respond state (written (requestText call) (some broken.1)) wire.served env).2) := by
  rw [exchange, Wire.write, fault]
  rfl

/-- A call whose request no task reads. -/
theorem exchange_unread {wire : Wire} (unserved : wire.served = false) (state : AppStateInner)
    (call : MethodCall) (env : Env) :
    (exchange state call env wire).2 = state ∧ Lost (exchange state call env wire).1 := by
  cases fault : wire.writeFault with
  | some broken =>
      rw [exchange_broken fault, unserved, respond_unserved]
      exact ⟨rfl, trivial⟩
  | none =>
      rw [exchange_written fault, unserved, respond_unserved, Wire.read]
      refine ⟨rfl, ?_⟩
      cases wire.readFault with
      | some reason => exact trivial
      | none =>
          rw [String.toList_empty, List.take_nil]
          exact .inl rfl

section Commands

variable {call : MethodCall}

/-- A call is dispatched once or not at all. -/
theorem exchange_state (command : IsCommand call) (state : AppStateInner) (env : Env)
    (wire : Wire) : (exchange state call env wire).2 = state ∨
    (exchange state call env wire).2 = (computed call env state).2 := by
  cases fault : wire.writeFault with
  | none =>
      rw [exchange_written fault]
      exact respond_part command.plain (List.prefix_refl _) wire.served env state
  | some broken =>
      rw [exchange_broken fault]
      have front := written_prefix (requestText call) (some broken.1)
      exact respond_part command.plain front wire.served env state

/-- What is reported is what the daemon has made of a call. -/
theorem exchange_reported (command : IsCommand call) (state : AppStateInner) (env : Env)
    (wire : Wire) : Lost (exchange state call env wire).1 ∨
    (exchange state call env wire).1 = reported (computed call env state).1 ∧
      (exchange state call env wire).2 = (computed call env state).2 := by
  cases served : wire.served with
  | false => exact .inl (exchange_unread served state call env).2
  | true =>
      cases fault : wire.writeFault with
      | none =>
          rw [exchange_written fault, served]
          cases read_fault : wire.readFault with
          | none =>
              exact (read_response command.plain wire read_fault).1.imp_right fun same =>
                ⟨same, (respond_record command.plain env state).1⟩
          | some reason =>
              rw [Wire.read, read_fault]
              exact .inl trivial
      | some broken =>
          rw [exchange_broken fault]
          exact .inl trivial

end Commands

end Exchange

section Listing

attribute [local instance] Chrono.utc

/-- The compact text format, with one text for every error. -/
@[reducible] def compactRecords : SerdeRecords :=
  letI := Json.Floats.verbatim
  .compact fun _ => "expected value at line 1 column 1"

attribute [local instance] compactRecords

/-- `reservations ls`. -/
def listing : MethodCall := ⟨"reservation.list", .object [("path", .null)]⟩

end Listing

/-! ## Methods which the daemon does not have -/

section Unserved

variable [Chrono] [SerdeRecords]

/-- A call of a method without a handler changes nothing, and is not answered with a result. -/
theorem exchange_unserved {call : MethodCall} (command : IsCommand call) (state : AppStateInner)
    (env : Env) (unserved : daemon.step state ⟨call.method, call.params, env⟩ =
      (.error (.error (.methodNotFound call.method)), state)) (wire : Wire) :
    (exchange state call env wire).2 = state ∧
      ∀ result, (exchange state call env wire).1 ≠ .ok result := by
  have made : (computed call env state).2 = state ∧
      ∀ result, reported (computed call env state).1 ≠ .ok result := by
    unfold computed
    rw [unserved]
    split_ifs
    · exact ⟨rfl, nofun⟩
    · exact ⟨rfl, nofun⟩
  constructor
  · rcases exchange_state command state env wire with same | same
    · exact same
    · exact same.trans made.1
  · intro result answered
    rcases exchange_reported command state env wire with lost | ⟨same, -⟩
    · rw [answered] at lost
      exact lost
    · exact made.2 result (same.symm.trans answered)

/-- Neither does a call which opens a stream first, or fails to. -/
theorem callInto_unserved {call : MethodCall} (command : IsCommand call) (state : AppStateInner)
    (env : Env) (unserved : daemon.step state ⟨call.method, call.params, env⟩ =
      (.error (.error (.methodNotFound call.method)), state)) (connect : Except String Unit)
    (wire : Wire) : (callInto connect state call env wire).2 = state ∧
      ∀ result, (callInto connect state call env wire).1 ≠ .ok (.ok result) := by
  cases connect with
  | error reason => exact ⟨rfl, nofun⟩
  | ok _ =>
      obtain ⟨unchanged, unanswered⟩ := exchange_unserved command state env unserved wire
      exact ⟨unchanged, fun result answered => unanswered result (Except.ok.inj answered)⟩

omit [Chrono] [SerdeRecords] in
/-- A placeholder succeeds, and shows a result only where there is one. -/
theorem placeholderOr_unanswered {outcome : Except String (Except RpcCallError Value)}
    (unanswered : ∀ result, outcome ≠ .ok (.ok result)) (method socket : String) :
    (placeholderOr method socket outcome).succeeds = true ∧
      ∀ result, placeholderOr method socket outcome ≠ .printed result := by
  rcases outcome with reason | ⟨error | result⟩
  · exact ⟨rfl, nofun⟩
  · cases error <;> exact ⟨rfl, nofun⟩
  · exact absurd rfl (unanswered result)

end Unserved

end Cli

/-- The subcommands whose methods the daemon does not have. -/
def CliCommand.IsUnserved : CliCommand → Prop
  | .stateSetFocus _ _ => True
  | .stateSetStatus _ _ => True
  | _ => False

theorem CliCommand.step_unserved [Chrono] {command : CliCommand} {call : MethodCall}
    (unserved : command.IsUnserved) (sent : command.sent = some call) (state : AppStateInner)
    (env : Env) : daemon.step state ⟨call.method, call.params, env⟩ =
      (.error (.error (.methodNotFound call.method)), state) := by
  cases command with
  | stateSetFocus file session =>
      obtain ⟨path, -, written⟩ := Option.bind_eq_some_iff.mp sent
      obtain rfl := Option.some.inj written
      rfl
  | stateSetStatus status session =>
      obtain rfl := Option.some.inj sent
      rfl
  | _ => exact absurd unserved id

theorem CliCommand.ending_unserved {command : CliCommand} (unserved : command.IsUnserved)
    (call : MethodCall) (socket : String)
    (outcome : Except String (Except RpcCallError Value)) :
    command.ending call socket outcome = Cli.placeholderOr call.method socket outcome := by
  cases command with
  | sessionsShow _ => exact absurd unserved id
  | _ => rfl

namespace Cli

variable [Chrono] [SerdeRecords]

/-- A connection which breaks is nothing to `daemon stop`. -/
theorem stop_of_broken {connect : Except String Unit} {wire : Wire} (connected : connect = .ok ())
    (broken : wire.writeFault.isSome = true ∨ wire.readFault.isSome = true) (socket : String)
    (state : AppStateInner) (env : Env) :
    (stop socket connect state env wire).1.succeeds = true := by
  subst connected
  have transport : ∃ reason, (exchange state ⟨"daemon.shutdown", .object []⟩ env wire).1 =
      .error (.transport reason) := by
    simp only [exchange, Wire.write, Wire.read]
    cases written : wire.writeFault with
    | some fault => exact ⟨_, rfl⟩
    | none =>
        obtain ⟨reason, failed⟩ := Option.isSome_iff_exists.mp
          (broken.resolve_left (by simp [written]))
        rw [failed]
        exact ⟨_, rfl⟩
  obtain ⟨reason, lost⟩ := transport
  simp only [stop, callInto, lost, stopped, Ending.succeeds]

/-- `daemon stop` stops nothing; it fails where no connection comes about, and succeeds where one
breaks.  `state set-focus` and `state set-status` set nothing, and succeed. -/
theorem unserved_commands (socket : String) (connect : Except String Unit) (state : AppStateInner)
    (env : Env) (wire : Wire) :
    (stop socket connect state env wire).2 = state ∧
      (∀ reason, connect = .error reason →
        (stop socket connect state env wire).1.succeeds = false) ∧
      (connect = .ok () → wire.writeFault.isSome = true ∨ wire.readFault.isSome = true →
        (stop socket connect state env wire).1.succeeds = true) ∧
      ∀ command : CliCommand, command.IsUnserved →
        (command.run socket connect state env wire).2 = state ∧
          ∀ ending ∈ (command.run socket connect state env wire).1, ending.succeeds = true ∧
            ∀ result, ending ≠ .printed result := by
  refine ⟨(callInto_unserved (.inl rfl) state env rfl connect wire).1, ?_,
    fun connected broken => stop_of_broken connected broken socket state env, ?_⟩
  · rintro reason rfl
    rfl
  · intro command unserved
    cases sent : command.sent with
    | none =>
        rw [CliCommand.run, sent]
        exact ⟨rfl, nofun⟩
    | some call =>
        have missing := command.step_unserved unserved sent state env
        obtain ⟨unchanged, unanswered⟩ :=
          callInto_unserved (.inr ⟨command, sent⟩) state env missing connect wire
        rw [CliCommand.run, sent]
        refine ⟨unchanged, ?_⟩
        rintro ending ⟨⟩
        rw [command.ending_unserved unserved]
        exact placeholderOr_unanswered unanswered call.method socket

end Cli

end TeamComm
