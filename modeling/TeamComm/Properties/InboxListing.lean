import TeamComm.Daemon.Request
import TeamComm.Library.Handout

/-!
# What a listing returns and marks

`inbox.list` collects ids, marks the messages with these ids and picks them by id again.  As the ids
of an inbox are distinct this is one pass, which hands out the first wanted messages and marks them
where they stand.
-/

namespace TeamComm

open Json (Value)

/-- What an inbox holds: a vector of messages with pairwise distinct ids. -/
structure InboxVector (messages : List InboxMessage) : Prop where
  /-- No two messages share an id. -/
  distinct : (messages.map InboxMessage.messageId).Nodup
  /-- The length of a vector is a `usize`. -/
  small : messages.length ≤ usizeMax

/-- The messages a listing is about. -/
def wanted (unreadOnly : Bool) (message : InboxMessage) : Bool := !unreadOnly || !message.read

/-- The number of messages a listing may return, zero standing for all of them. -/
def quota (limit : UInt64) (messages : List InboxMessage) : Nat :=
  if limit = 0 then messages.length else limit.toNat

/-- A message its recipient has read. -/
def InboxMessage.opened (message : InboxMessage) : InboxMessage := { message with read := true }

/-- The one-pass reference: what a listing returns, and the inbox it leaves behind. -/
def listing (unreadOnly : Bool) (limit : UInt64) (messages : List InboxMessage) :
    List InboxMessage × List InboxMessage :=
  Handout.onePass (wanted unreadOnly) InboxMessage.opened (quota limit messages) messages

/-- The ids a listing collects are those of the first wanted messages. -/
theorem resultIds_eq {messages : List InboxMessage} (small : messages.length ≤ usizeMax)
    (unreadOnly : Bool) (limit : UInt64) :
    resultIds unreadOnly limit messages =
      ((messages.filter (wanted unreadOnly)).take (quota limit messages)).map
        InboxMessage.messageId := by
  have filtered : (messages.filter (wanted unreadOnly)).length ≤ messages.length :=
    List.length_filter_le _ _
  rw [resultIds, quota]
  by_cases unlimited : limit = 0
  · rw [if_neg (by simp [unlimited]), if_pos unlimited, List.take_of_length_le filtered]
    exact congrArg _ (List.take_of_length_le (filtered.trans small))
  · have positive : 0 < limit := UInt64.pos_iff_ne_zero.mpr unlimited
    rw [if_pos positive, if_neg unlimited]
    rfl

/-- The three passes of a listing are the one pass of the reference. -/
theorem passes_eq_listing {messages : List InboxMessage} (vector : InboxVector messages)
    (unreadOnly : Bool) (limit : UInt64) :
    ((markRead (resultIds unreadOnly limit messages) messages).filter
        (fun message => message.messageId ∈ resultIds unreadOnly limit messages),
      markRead (resultIds unreadOnly limit messages) messages) =
    listing unreadOnly limit messages :=
  have same_id : ∀ message : InboxMessage, message.opened.messageId = message.messageId :=
    fun _ => rfl
  Handout.threePasses_eq_onePass (wanted unreadOnly) same_id vector.distinct
    (resultIds_eq vector.small unreadOnly limit)

theorem listing_returned (unreadOnly : Bool) (limit : UInt64) (messages : List InboxMessage) :
    (listing unreadOnly limit messages).1 =
      (let listed := messages.filter (wanted unreadOnly)
        if limit = 0 then listed else listed.take limit.toNat).map InboxMessage.opened := by
  rw [listing, Handout.onePass_out, quota]
  by_cases unlimited : limit = 0
  · have all : (messages.filter (wanted unreadOnly)).length ≤ messages.length :=
      List.length_filter_le _ _
    simp only [unlimited, if_true, List.take_of_length_le all]
  · simp only [unlimited, if_false]

/-- A listing opens the messages it returns, in their places. -/
theorem listing_left {messages : List InboxMessage} (vector : InboxVector messages)
    (unreadOnly : Bool) (limit : UInt64) :
    (listing unreadOnly limit messages).2 = messages.map fun message =>
      if message.messageId ∈ (listing unreadOnly limit messages).1.map InboxMessage.messageId then
        message.opened
      else message := by
  have returned_ids : (listing unreadOnly limit messages).1.map InboxMessage.messageId =
      resultIds unreadOnly limit messages := by
    rw [resultIds_eq vector.small, listing, Handout.onePass_out, List.map_map]
    rfl
  rw [returned_ids, ← passes_eq_listing vector unreadOnly limit]
  rfl

section Listing

variable [Chrono] {state : AppStateInner} {call : Call} {sessionId : String} {unreadOnly : Bool}
  {limit : UInt64}

/-- A listing returns the first messages, or the first unread ones, in stored order, and all of them
when its limit is zero.  It opens what it returns, touches no other message and keeps the order;
nothing else in the state changes. -/
theorem inboxList_eq_listing
    (read : Request.read call.method call.params = .ok (.inboxList sessionId unreadOnly limit))
    (vector : InboxVector ((state.inbox.get sessionId).getD [])) :
    let messages := (state.inbox.get sessionId).getD []
    ∃ returned left, listing unreadOnly limit messages = (returned, left) ∧
      daemon.step state call = (.ok (.array (returned.map InboxMessage.toValue)),
        { state with inbox := state.inbox.insert sessionId left }) ∧
      returned = (let listed := messages.filter fun message => !unreadOnly || !message.read
        if limit = 0 then listed else listed.take limit.toNat).map InboxMessage.opened ∧
      left = messages.map (fun message =>
        if message.messageId ∈ returned.map InboxMessage.messageId then message.opened
        else message) ∧
      ∀ other, other ≠ sessionId →
        (daemon.step state call).2.inbox.get other = state.inbox.get other := by
  intro messages
  have step := Request.step_of_read state read
  rw [Request.perform] at step
  have passes := passes_eq_listing vector unreadOnly limit
  rw [Prod.ext_iff] at passes
  refine ⟨(listing unreadOnly limit messages).1, (listing unreadOnly limit messages).2, rfl, ?_,
    listing_returned _ _ _, listing_left vector _ _, ?_⟩
  · rw [step, ← passes.1, ← passes.2]
  · intro other different
    rw [step]
    exact HashMap.get_insert_of_ne _ _ different

end Listing

section Example

attribute [local instance] Chrono.utc

/-- A read message and two unread ones. -/
def pendingMessages : List InboxMessage := [
  ⟨"msg_a", "sess_a", "sess_b", "", "rebase", .normal, .ofSeconds 1 (by decide), true⟩,
  ⟨"msg_b", "sess_a", "sess_b", "", "review", .normal, .ofSeconds 2 (by decide), false⟩,
  ⟨"msg_c", "sess_a", "sess_b", "", "merge", .high, .ofSeconds 3 (by decide), false⟩]

/-- The first unread message of an agent is asked for. -/
def listNext : Call :=
  ⟨"inbox.list", .object [("session_id", .string "sess_b"), ("unread_only", .bool true),
    ("limit", .u64 1)], .ofSeconds 4 "d"⟩

theorem inboxList_eq_listing_pendingMessages :
    let state := { newState with inbox := newState.inbox.insert "sess_b" pendingMessages }
    ∃ returned left, listing true 1 pendingMessages = (returned, left) ∧
      daemon.step state listNext = (.ok (.array (returned.map InboxMessage.toValue)),
        { state with inbox := state.inbox.insert "sess_b" left }) := by
  intro state
  have vector : InboxVector ((state.inbox.get "sess_b").getD []) := ⟨by decide, by decide⟩
  have read : Request.read listNext.method listNext.params = .ok (.inboxList "sess_b" true 1) := rfl
  obtain ⟨returned, left, passed, step, -⟩ := inboxList_eq_listing read vector
  exact ⟨returned, left, passed, step⟩

end Example

end TeamComm
