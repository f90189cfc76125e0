import TeamComm.Mcp.Server
import TeamComm.Properties.ConnectionLoop

/-!
# MCP server loop

The loop answers every line which is not blank, under the id of the message on it.  It does not look
for notifications, so a message without an id is answered like one whose id is null; and it ends at
a line which is no UTF-8 text, so such a line is not answered like others which are no JSON.
-/

namespace TeamComm

open Json (Value)

namespace Mcp

/-! ## Ids -/

theorem get_resultEnvelope (id result : Value) :
    (resultEnvelope id result).get "id" = some id.doc := by
  simp [resultEnvelope, Value.get_object, Json.lookup_cons_eq_ite]

theorem get_errorEnvelope (id : Value) (code : Int32) (message : String) :
    (errorEnvelope id code message).get "id" = some id.doc := by
  simp [errorEnvelope, Value.get_object, Json.lookup_cons_eq_ite]

/-- The code of the error which an envelope reports. -/
def errorCode (envelope : Value) : Option Int32 :=
  ((envelope.get "error").bind (Json.member "code")).bind readI32

theorem errorCode_resultEnvelope (id result : Value) :
    errorCode (resultEnvelope id result) = none := by
  simp [errorCode, resultEnvelope, Value.get_object, Json.lookup_cons_eq_ite]

theorem errorCode_errorEnvelope (id : Value) (code : Int32) (message : String) :
    errorCode (errorEnvelope id code message) = some code := by
  have error : (errorEnvelope id code message).get "error" =
      some (Value.object [("code", i32Value code), ("message", .string message)]).doc := by
    simp [errorEnvelope, Value.get_object]
  have inner : (Value.object [("code", i32Value code), ("message", .string message)]).doc.member
      "code" = some (i32Value code).doc := by
    rw [← Value.get, Value.get_object]
    simp [Json.lookup_cons_eq_ite]
  rw [errorCode, error, Option.bind_some, inner, Option.bind_some, readI32_i32Value]

/-- The inner dispatcher answers under the id of the envelope. -/
theorem get_dispatchToolCall {host : Host} {message reply : Value}
    (answered : dispatchToolCall host message = .ok reply) :
    reply.get "id" = some (message.getOrNull "id").doc := by
  unfold dispatchToolCall at answered
  split at answered
  · cases answered
  · split at answered
    · obtain rfl := Except.ok.inj answered
      exact get_errorEnvelope _ _ _
    · dsimp only at answered
      split at answered
      · cases answered
      · split at answered
        · obtain rfl := Except.ok.inj answered
          exact get_resultEnvelope _ _
        · obtain rfl := Except.ok.inj answered
          exact get_errorEnvelope _ _ _

/-- Every message is answered under its id. -/
theorem get_answerMessage (manifest : Manifest) (host : Host) (message : Value) :
    (answerMessage manifest host message).get "id" = some (message.getOrNull "id").doc := by
  unfold answerMessage
  dsimp only
  split
  · exact get_resultEnvelope _ _
  · exact get_resultEnvelope _ _
  · split
    next envelope answered => exact get_dispatchToolCall answered
    next => exact get_errorEnvelope _ _ _
  · exact get_resultEnvelope _ _
  · exact get_errorEnvelope _ _ _
  · exact get_errorEnvelope _ _ _

/-- A message is never answered with a parse error. -/
theorem errorCode_answerMessage (manifest : Manifest) (host : Host) (message : Value) :
    errorCode (answerMessage manifest host message) ≠ some (-32700) := by
  have others : (-32000 : Int32) ≠ -32700 ∧ (-32600 : Int32) ≠ -32700 ∧
      (-32601 : Int32) ≠ -32700 := by decide
  unfold answerMessage
  dsimp only
  split
  · simp [errorCode_resultEnvelope]
  · simp [errorCode_resultEnvelope]
  · split
    next envelope answered =>
      unfold dispatchToolCall at answered
      split at answered
      · cases answered
      · split at answered
        · obtain rfl := Except.ok.inj answered
          simp [errorCode_errorEnvelope, others]
        · dsimp only at answered
          split at answered
          · cases answered
          · split at answered
            · obtain rfl := Except.ok.inj answered
              simp [errorCode_resultEnvelope]
            · obtain rfl := Except.ok.inj answered
              simp [errorCode_errorEnvelope, others]
    next => simp [errorCode_errorEnvelope, others]
  · simp [errorCode_resultEnvelope]
  · simp [errorCode_errorEnvelope, others]
  · simp [errorCode_errorEnvelope, others]

/-! ## Lines -/

/-- A message is an object which has no id, or a null one. -/
def isNotification (message : Value) : Bool :=
  message.doc.asObject.isSome && ((message.get "id").getD .null).isNull

section Lines

variable [SerdeJson]

/-- A line of blanks. -/
def BlankLine (line : ByteArray) : Prop := ∃ text ∈ String.fromUTF8? line, Blank text

/-- The message on a line. -/
def lineMessage (line : ByteArray) : Option Value := (String.fromUTF8? line).bind messageOf

/-- A line with a message which asks for no answer. -/
def Notification (line : ByteArray) : Prop :=
  ¬BlankLine line ∧ ∃ message ∈ lineMessage line, isNotification message = true

/-- A line which is not JSON. -/
def Illegible (line : ByteArray) : Prop := ¬BlankLine line ∧ lineMessage line = none

instance (line : ByteArray) : Decidable (BlankLine line) :=
  inferInstanceAs (Decidable (∃ text ∈ String.fromUTF8? line, _))

instance (line : ByteArray) : Decidable (Notification line) :=
  inferInstanceAs (Decidable (_ ∧ ∃ message ∈ lineMessage line, _))

instance (line : ByteArray) : Decidable (Illegible line) :=
  decidable_of_iff (¬BlankLine line ∧ (lineMessage line).isNone = true)
    (and_congr_right fun _ => Option.isNone_iff_eq_none)

/-- A line which asks for an answer: a request, or what cannot be read as a message. -/
def Answerable (line : ByteArray) : Prop := ¬BlankLine line ∧ ¬Notification line

instance (line : ByteArray) : Decidable (Answerable line) := inferInstanceAs (Decidable (_ ∧ _))

/-- A reply fits its line: it repeats the id of the message, or reports that there is none. -/
def Replies (envelope : Value) (line : ByteArray) : Prop :=
  match lineMessage line with
  | some message =>
      ∀ id, message.get "id" = some id → (envelope.get "id").map Value.ofJson = some (.ofJson id)
  | none => envelope.get "id" = some .null ∧ errorCode envelope = some (-32700)

/-- The envelopes which the loop writes. -/
def replies (manifest : Manifest) : List (ByteArray × Host) → List Value
  | [] => []
  | (bytes, host) :: lines =>
      match String.fromUTF8? bytes with
      | none => []
      | some line => (serveLine manifest host line).toList ++ replies manifest lines

/-- The loop writes one reply a line: those to the lines which ask for one, in order. -/
def AnswersRequestsOnly (manifest : Manifest) (lines : List (ByteArray × Host)) : Prop :=
  Lines.split (serve manifest "" lines) = (replies manifest lines).map SerdeJson.toString ∧
    List.Forall₂ Replies (replies manifest lines)
      ((lines.map Prod.fst).filter fun line => Answerable line)

theorem serve_eq (manifest : Manifest) (lines : List (ByteArray × Host)) (written : String) :
    serve manifest written lines = (replies manifest lines).foldl writeEnvelope written := by
  induction lines generalizing written with
  | nil => rfl
  | cons line lines ih =>
      obtain ⟨bytes, host⟩ := line
      rw [serve, replies]
      cases String.fromUTF8? bytes with
      | none => rfl
      | some text =>
          dsimp only
          cases serveLine manifest host text with
          | none => exact ih written
          | some reply => exact ih (writeEnvelope written reply)

theorem split_serve (manifest : Manifest) (lines : List (ByteArray × Host)) :
    Lines.split (serve manifest "" lines) =
      (replies manifest lines).map SerdeJson.toString := by
  rw [serve_eq, split_written]

/-! ## Lines which are text -/

section Text

variable {bytes : ByteArray} {line : String}

omit [SerdeJson] in
theorem blankLine_text (text : String.fromUTF8? bytes = some line) :
    BlankLine bytes ↔ Blank line := by
  simp [BlankLine, text]

theorem lineMessage_text (text : String.fromUTF8? bytes = some line) :
    lineMessage bytes = messageOf line := by
  rw [lineMessage, text, Option.bind_some]

theorem serveLine_blank (manifest : Manifest) (host : Host) (blank : Blank line) :
    serveLine manifest host line = none :=
  if_pos blank

/-- Every line which is not blank is answered. -/
theorem serveLine_some (manifest : Manifest) (host : Host)
    (text : String.fromUTF8? bytes = some line) (not_blank : ¬Blank line) :
    ∃ reply, serveLine manifest host line = some reply ∧ Replies reply bytes ∧
      (errorCode reply = some (-32700) → Illegible bytes) := by
  rw [serveLine, if_neg (show ¬trim line = "" from not_blank), Illegible, blankLine_text text]
  unfold Replies
  rw [lineMessage_text text]
  cases messageOf line with
  | none =>
      exact ⟨_, rfl, ⟨get_errorEnvelope _ _ _, errorCode_errorEnvelope _ _ _⟩,
        fun _ => ⟨not_blank, rfl⟩⟩
  | some message =>
      refine ⟨_, rfl, fun id found => ?_, fun refused => ?_⟩
      · rw [get_answerMessage, Value.getOrNull, found]
        simp
      · exact absurd refused (errorCode_answerMessage manifest host message)

theorem replies_text {manifest : Manifest} {host : Host} {lines : List (ByteArray × Host)}
    (text : String.fromUTF8? bytes = some line) :
    replies manifest ((bytes, host) :: lines) =
      (serveLine manifest host line).toList ++ replies manifest lines := by
  simp only [replies, text]

end Text

/-- A line which is no text is not JSON, and it is not answered. -/
theorem illegible_of_none {bytes : ByteArray} (no_text : String.fromUTF8? bytes = none) :
    Illegible bytes := by
  simp [Illegible, BlankLine, lineMessage, no_text]

theorem Illegible.answerable {line : ByteArray} (illegible : Illegible line) : Answerable line := by
  refine ⟨illegible.1, fun notification => ?_⟩
  obtain ⟨-, message, found, -⟩ := notification
  rw [illegible.2] at found
  cases found

/-- Where the loop ends at a line, it reports fewer parse errors than lines call for. -/
theorem parseErrors_lt {manifest : Manifest} {lines : List (ByteArray × Host)}
    (ends : ∃ line ∈ lines, String.fromUTF8? line.1 = none) :
    (replies manifest lines).countP (fun reply => errorCode reply = some (-32700)) <
      lines.countP fun line => Illegible line.1 := by
  induction lines with
  | nil => simp at ends
  | cons line lines ih =>
      obtain ⟨bytes, host⟩ := line
      rw [List.countP_cons]
      cases text : String.fromUTF8? bytes with
      | none =>
          rw [if_pos (by simpa using illegible_of_none text)]
          simp [replies, text]
      | some line =>
          have later := ih (by simpa [text] using ends)
          rw [replies_text text]
          by_cases blank : Blank line
          · rw [serveLine_blank manifest host blank]
            exact later.trans_le (Nat.le_add_right _ _)
          · obtain ⟨reply, answered, -, refused⟩ := serveLine_some manifest host text blank
            rw [answered]
            dsimp only [Option.toList_some, List.singleton_append]
            rw [List.countP_cons]
            by_cases parse_error : errorCode reply = some (-32700)
            · rw [if_pos (by simpa using parse_error), if_pos (by simpa using refused parse_error)]
              exact Nat.succ_lt_succ later
            · rw [if_neg (by simpa using parse_error)]
              exact later.trans_le (Nat.le_add_right _ _)

/-- Every line which is not JSON is told so only if every line is text. -/
theorem text_of_answers {manifest : Manifest} {lines : List (ByteArray × Host)}
    (answers : AnswersRequestsOnly manifest lines) :
    ∀ line ∈ lines, ∃ text, String.fromUTF8? line.1 = some text := by
  by_contra! ends
  obtain ⟨line, member, no_text⟩ := ends
  have fewer := @parseErrors_lt _ manifest _
    ⟨line, member, Option.eq_none_iff_forall_not_mem.mpr no_text⟩
  have told : ((lines.map Prod.fst).filter fun line => Answerable line).countP
      (fun line => Illegible line) ≤
        (replies manifest lines).countP fun reply => errorCode reply = some (-32700) := by
    refine Lines.countP_le_of_forall₂ answers.2 fun reply line replied illegible => ?_
    rw [decide_eq_true_eq] at illegible ⊢
    unfold Replies at replied
    rw [illegible.2] at replied
    exact replied.2
  have called : ((lines.map Prod.fst).filter fun line => Answerable line).countP
      (fun line => Illegible line) = lines.countP fun line => Illegible line.1 := by
    rw [List.countP_filter, List.countP_map]
    refine List.countP_congr fun line _ => ?_
    simpa using Illegible.answerable
  omega

/-- The lines which the loop answers are those which are not blank. -/
theorem replies_to_lines {manifest : Manifest} {lines : List (ByteArray × Host)}
    (texts : ∀ line ∈ lines, ∃ text, String.fromUTF8? line.1 = some text) :
    List.Forall₂ (fun reply line => Replies reply line.1) (replies manifest lines)
      (lines.filter fun line => ¬BlankLine line.1) := by
  induction lines with
  | nil => exact .nil
  | cons line lines ih =>
      rw [List.forall_mem_cons] at texts
      obtain ⟨⟨text, here⟩, later⟩ := texts
      obtain ⟨bytes, host⟩ := line
      dsimp only at here
      rw [replies_text here]
      by_cases blank : Blank text
      · rw [serveLine_blank manifest host blank, List.filter_cons_of_neg]
        · exact ih later
        · simpa [blankLine_text here] using blank
      · obtain ⟨reply, answered, replied, -⟩ := serveLine_some manifest host here blank
        rw [answered, List.filter_cons_of_pos]
        · exact .cons replied (ih later)
        · simpa [blankLine_text here] using blank

/-- A line which asks for no answer is answered all the same, unless there is none. -/
theorem not_notification_of_answers {manifest : Manifest} {lines : List (ByteArray × Host)}
    (answers : AnswersRequestsOnly manifest lines) : ∀ line ∈ lines, ¬Notification line.1 := by
  have written := (@replies_to_lines _ manifest _ (text_of_answers answers)).length_eq
  have asked := answers.2.length_eq
  rw [List.filter_map, List.length_map] at asked
  have each :
      ((lines.filter fun line => ¬BlankLine line.1).filter fun line =>
        ¬Notification line.1).length = (lines.filter fun line => ¬BlankLine line.1).length := by
    rw [← written, asked, List.filter_filter]
    refine congrArg List.length (List.filter_congr fun line _ => ?_)
    rw [Bool.eq_iff_iff]
    simp only [Function.comp_apply, Bool.and_eq_true, decide_eq_true_iff]
    exact and_comm
  rw [List.length_filter_eq_length_iff] at each
  intro line member notification
  have kept : line ∈ lines.filter fun line => ¬BlankLine line.1 := by
    simpa [member] using notification.1
  simpa [notification] using each line kept

/-- The loop answers the requests and nothing else exactly when every line is text and none is a
notification. -/
theorem answersRequestsOnly_iff {manifest : Manifest} {lines : List (ByteArray × Host)} :
    AnswersRequestsOnly manifest lines ↔
      ∀ line ∈ lines, (∃ text, String.fromUTF8? line.1 = some text) ∧ ¬Notification line.1 := by
  constructor
  · intro answers line member
    exact ⟨text_of_answers answers line member, not_notification_of_answers answers line member⟩
  · intro requests
    refine ⟨split_serve manifest lines, ?_⟩
    have same : (lines.filter fun line => ¬BlankLine line.1) =
        lines.filter fun line => Answerable line.1 := by
      refine List.filter_congr fun line member => decide_eq_decide.mpr ?_
      exact (and_iff_left (requests line member).2).symm
    have replied := @replies_to_lines _ manifest _ fun line member => (requests line member).1
    rw [same] at replied
    rw [List.filter_map, List.forall₂_map_right_iff]
    exact replied

end Lines

section Initialized

attribute [local instance] compactJson

/-- What a host tells a server once it is connected. -/
def initializedLine : ByteArray × Host :=
  ("\x7b\"jsonrpc\":\"2.0\",\"method\":\"notifications/initialized\"\x7d".toUTF8,
    { processId := 7, connect := .ok ⟨⟩, call := fun _ => .ok .null })

theorem not_answersRequestsOnly_initialized :
    ¬AnswersRequestsOnly ⟨"teamcomm", "0.1.0", .array []⟩ [initializedLine] := by
  intro answers
  have notification : Notification initializedLine.1 := by decide +kernel
  exact not_notification_of_answers answers _ List.mem_cons_self notification

end Initialized

end Mcp

end TeamComm
