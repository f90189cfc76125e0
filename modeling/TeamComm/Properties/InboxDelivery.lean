import TeamComm.Properties.InboxMailbox

/-!
# Inbox delivery

What reaches a recipient, how often and in which order: every run of the daemon is followed by a
run of the recipient's mailbox, whose account of deliveries holds for the answers of the daemon.
-/

namespace TeamComm

open Json (Value)

/-- A call lists the unread messages of a session. -/
def PollsUnread (session : String) (call : Call) : Prop :=
  call.method = "inbox.list" ∧ getStr call.params "session_id" = some session ∧
    getBool call.params "unread_only" = some true

instance (session : String) (call : Call) : Decidable (PollsUnread session call) :=
  inferInstanceAs (Decidable (_ ∧ _ ∧ _))

/-- A call lists the messages of a session, read or not. -/
def ListsAll (session : String) (call : Call) : Prop :=
  call.method = "inbox.list" ∧ getStr call.params "session_id" = some session ∧
    getBool call.params "unread_only" ≠ some true

/-- The ids of the messages which a call returns. -/
def returnedIds : Except Failure Value → List String
  | .ok reply => repliedIds reply
  | .error _ => []

/-- The id of the message which a call posts to a session. -/
def postedId (session : String) (step : CallStep) : Option String :=
  match step.output with
  | .error _ => none
  | .ok reply =>
      if step.event.method = "inbox.post" ∧
          getStr step.event.params "to_session" = some session then
        repliedId reply
      else none

/-- A message of a session is unread. -/
def UnreadIn (session : String) (state : AppStateInner) (id : String) : Prop :=
  ∃ message ∈ (state.inbox.get session).getD [], message.messageId = id ∧ message.read = false

theorem unreadIn_iff {session : String} {state : AppStateInner} {id : String} :
    UnreadIn session state id ↔ id ∈ Mailbox.unread (mailbox session state) := by
  simp [UnreadIn, Mailbox.unread, Mailbox.ids, mailbox, and_comm, and_assoc, and_left_comm]

theorem unreadOnly_iff {params : Value} :
    unreadOnly params = true ↔ getBool params "unread_only" = some true := by
  rw [unreadOnly]
  rcases getBool params "unread_only" with _ | _ | _ <;> simp

private theorem filter_listed {ids listed : List String} (distinct : ids.Nodup)
    (ordered : listed.Sublist ids) : ids.filter (fun id => id ∈ listed) = listed := by
  induction ordered with
  | slnil => rfl
  | @cons listed ids id ordered ih =>
      have absent : id ∉ listed := fun member =>
        (List.nodup_cons.mp distinct).1 (ordered.subset member)
      rw [List.filter_cons_of_neg (by simpa using absent), ih (List.nodup_cons.mp distinct).2]
  | @cons_cons listed ids id ordered ih =>
      obtain ⟨absent, tail_distinct⟩ := List.nodup_cons.mp distinct
      rw [List.filter_cons_of_pos (by simp)]
      conv_rhs => rw [← ih tail_distinct]
      congr 1
      apply List.filter_congr
      intro other member
      have different : other ≠ id := fun same => absent (same ▸ member)
      simp [different]

theorem listOp_unread {session : String} {call : Call} (polls : PollsUnread session call) :
    listOp call = .poll (window call.params) :=
  if_pos (unreadOnly_iff.mpr polls.2.2)

theorem listOp_all {session : String} {call : Call} (all : ListsAll session call) :
    listOp call = .browse (window call.params) :=
  if_neg fun unread => all.2.2 (unreadOnly_iff.mp unread)

theorem pollsUnread_of_opOf {session : String} {step : CallStep} {limit : Nat}
    (asked : opOf session step = .poll limit) : PollsUnread session step.event := by
  rcases opOf_cases session step with idle | ⟨id, post⟩ | ⟨lists, list⟩ | ⟨id, -, fetch⟩
  · simp [idle] at asked
  · simp [post] at asked
  · rw [list, listOp] at asked
    split at asked
    next unread => exact ⟨lists.1, lists.2, unreadOnly_iff.mp unread⟩
    next => cases asked
  · simp [fetch] at asked

theorem otherwise_of_opOf {session id : String} {step : CallStep}
    (overlooks : (opOf session step).Overlooks id) :
    ListsAll session step.event ∨ ReadsId id step.event := by
  rcases opOf_cases session step with idle | ⟨other, post⟩ | ⟨lists, list⟩ | ⟨other, reads, fetch⟩
  · simp [idle, Mailbox.Op.Overlooks] at overlooks
  · simp [post, Mailbox.Op.Overlooks] at overlooks
  · rw [list, listOp] at overlooks
    split at overlooks
    next => cases overlooks
    next all => exact Or.inl ⟨lists.1, lists.2, fun unread => all (unreadOnly_iff.mpr unread)⟩
  · rw [fetch] at overlooks
    obtain rfl : other = id := overlooks
    exact Or.inr reads

section Delivery

variable [Chrono]

/-- What a run posts to a session, in lock order. -/
def postedTo (session : String) (calls : List Call) : List String :=
  (daemon.trace newState calls).filterMap (postedId session)

/-- What the polls of a run return to a session, concatenated in lock order. -/
def polledBy (session : String) (calls : List Call) : List String :=
  (daemon.trace newState calls).flatMap fun step =>
    if PollsUnread session step.event then returnedIds step.output else []

/-- A message was first marked as read by a list of all messages or by a read of its id. -/
def FirstMarkedOtherwise (session : String) (calls : List Call) (id : String) : Prop :=
  ∃ step ∈ daemon.trace newState calls,
    (ListsAll session step.event ∨ ReadsId id step.event) ∧
      UnreadIn session step.before id ∧ ¬UnreadIn session step.after id

/-! ## Answers of the daemon and of the mailbox -/

theorem repliedId_message (message : InboxMessage) :
    repliedId message.toValue = some message.messageId := by
  simp [repliedId, InboxMessage.toValue, Value.get_object, Json.lookup_cons_eq_ite]

theorem repliedIds_messages (messages : List InboxMessage) :
    repliedIds (.array (messages.map InboxMessage.toValue)) =
      messages.map InboxMessage.messageId := by
  have id_of (message : InboxMessage) :
      (message.toValue.doc.member "message_id").bind Json.asStr = some message.messageId :=
    repliedId_message message
  simp [repliedIds, Value.array, Json.asArray, List.filterMap_map, Function.comp_def, id_of]

/-- An `inbox.list` call returns what the mailbox hands out, in the order of posting. -/
theorem returnedIds_list {session : String} {state : AppStateInner} {call : Call}
    (distinct : (Mailbox.ids (mailbox session state)).Nodup) (lists : Lists session call) :
    returnedIds (daemon.step state call).1 =
      Mailbox.handed (mailbox session state) (listOp call) := by
  obtain ⟨listed, window_eq, step⟩ := @step_inboxList _ _ state _ lists.1 lists.2
  have handed_eq : listed = Mailbox.handed (mailbox session state) (listOp call) :=
    window_eq.trans (resultIds_eq_handed session state call.params)
  have ordered : listed.Sublist (Mailbox.ids (mailbox session state)) := by
    rw [handed_eq, listOp]
    split
    · exact (List.take_sublist _ _).trans (Mailbox.unread_sublist _)
    · exact List.take_sublist _ _
  have ids_marked (messages : List InboxMessage) :
      (markRead listed messages).map InboxMessage.messageId =
        messages.map InboxMessage.messageId := by
    rw [← ids_slots, slots_markRead, Mailbox.ids_mark, ids_slots]
  have filter_ids (messages : List InboxMessage) :
      (messages.filter fun message => message.messageId ∈ listed).map InboxMessage.messageId =
        (messages.map InboxMessage.messageId).filter fun id => id ∈ listed := by
    rw [List.filter_map]
    rfl
  rw [step, returnedIds, repliedIds_messages, ← handed_eq, filter_ids, ids_marked, ← ids_slots]
  exact filter_listed distinct ordered

/-! ## Runs -/

/-- What a run asks of the mailbox of a session. -/
def opsOf (session : String) (calls : List Call) : List (Mailbox.Op String) :=
  (daemon.trace newState calls).map (opOf session)

/-- The step of the mailbox which follows a call. -/
def mailboxStep (session : String) (step : CallStep) :
    Mealy.Transition (List (Mailbox.Slot String)) (Mailbox.Op String) (List String) :=
  (Mailbox.machine String).transition (mailbox session step.before) (opOf session step)

private theorem follows {calls : List Call} (fresh : FreshIds calls) (session : String) :
    ∀ step ∈ daemon.trace newState calls,
      ((Mailbox.machine String).step (mailbox session step.before) (opOf session step)).2 =
        mailbox session step.after := by
  intro step member
  obtain ⟨front, call, back, rfl, rfl⟩ := Mealy.mem_trace.mp member
  exact mailbox_follows (inboxIds_run (Mealy.Fresh.front fresh)) session call

theorem boxAfter_opsOf {calls : List Call} (fresh : FreshIds calls) (session : String) :
    Mailbox.boxAfter (opsOf session calls) = mailbox session (daemon.run newState calls) :=
  Mealy.run_simulation (follows fresh session)

theorem trace_opsOf {calls : List Call} (fresh : FreshIds calls) (session : String) :
    (Mailbox.machine String).trace [] (opsOf session calls) =
      (daemon.trace newState calls).map (mailboxStep session) :=
  Mealy.trace_simulation (follows fresh session)

theorem posted_opsOf (session : String) (calls : List Call) :
    Mailbox.posted (opsOf session calls) = postedTo session calls := by
  rw [Mailbox.posted, opsOf, List.filterMap_map, postedTo]
  apply List.filterMap_congr
  intro step _
  simp only [Function.comp_apply, opOf, postedId]
  cases step.output with
  | error => rfl
  | ok reply =>
      by_cases method : step.event.method = "inbox.post"
      · by_cases named : getStr step.event.params "to_session" = some session
        · cases found : repliedId reply <;> simp [method, named, found]
        · simp [method, named]
      · simp only [method, if_false, false_and]
        split_ifs
        · cases unread : unreadOnly step.event.params <;> simp [listOp, unread]
        · rfl
        · cases getStr step.event.params "message_id" <;> rfl
        · rfl

private theorem delivered_step {session : String} {step : CallStep}
    (taken : step.output = (daemon.step step.before step.event).1)
    (distinct : (Mailbox.ids (mailbox session step.before)).Nodup) :
    (match opOf session step with
      | .poll limit => (Mailbox.unread (mailbox session step.before)).take limit
      | _ => []) =
      if PollsUnread session step.event then returnedIds step.output else [] := by
  by_cases polls : PollsUnread session step.event
  · have lists : Lists session step.event := ⟨polls.1, polls.2.1⟩
    obtain ⟨listed, -, step_eq⟩ := @step_inboxList _ _ step.before _ lists.1 lists.2
    rw [if_pos polls, opOf_list lists (taken.trans (congrArg Prod.fst step_eq)), taken,
      returnedIds_list distinct lists, listOp_unread polls]
    rfl
  · rw [if_neg polls]
    cases asked : opOf session step with
    | poll limit => exact absurd (pollsUnread_of_opOf asked) polls
    | post | browse | fetch | idle => rfl

/-- The polls of the mailbox are the calls for unread messages, and hand out what these return. -/
theorem delivered_opsOf {calls : List Call} (fresh : FreshIds calls) (session : String) :
    Mailbox.delivered (opsOf session calls) = polledBy session calls := by
  rw [Mailbox.delivered, trace_opsOf fresh, List.flatMap_map, polledBy]
  apply List.flatMap_congr
  intro step member
  obtain ⟨front, call, back, rfl, rfl⟩ := Mealy.mem_trace.mp member
  rw [← delivered_step rfl ((inboxIds_run (Mealy.Fresh.front fresh)).distinct session)]
  simp only [mailboxStep, Mealy.transition, Mailbox.machine]
  cases opOf session ⟨daemon.run newState front, call,
    (daemon.step (daemon.run newState front) call).1,
    (daemon.step (daemon.run newState front) call).2⟩ <;> rfl

theorem overlooked_opsOf {calls : List Call} (fresh : FreshIds calls) (session id : String) :
    Mailbox.Overlooked (opsOf session calls) id ↔ FirstMarkedOtherwise session calls id := by
  have after_eq := follows fresh session
  simp only [Mailbox.Overlooked, trace_opsOf fresh, List.mem_map, exists_exists_and_eq_and,
    FirstMarkedOtherwise, unreadIn_iff]
  constructor
  · rintro ⟨step, member, overlooks, unread_before, read_after⟩
    refine ⟨step, member, otherwise_of_opOf overlooks, unread_before, ?_⟩
    rw [← after_eq step member]
    exact read_after
  · rintro ⟨step, member, otherwise, unread_before, read_after⟩
    rw [← after_eq step member] at read_after
    refine ⟨step, member, ?_, unread_before, read_after⟩
    change (opOf session step).Overlooks id
    cases answered : step.output with
    | error failure =>
        -- A failed call leaves the mailbox alone.
        have idle : opOf session step = .idle := by simp [opOf, answered]
        rw [idle] at read_after
        change id ∉ Mailbox.unread (Mailbox.next (mailbox session step.before) .idle) at read_after
        rw [next_idle] at read_after
        exact absurd unread_before read_after
    | ok reply =>
        rcases otherwise with all | reads
        · rw [opOf_list ⟨all.1, all.2.1⟩ answered, listOp_all all]
          trivial
        · rw [opOf_read reads answered]
          rfl

/-- Unread delivery happens exactly once and in order, and what it misses is still unread or was
first marked in another way. -/
theorem unread_delivery {calls : List Call} (fresh : FreshIds calls) (session : String) :
    (polledBy session calls).Nodup ∧
      (polledBy session calls).Sublist (postedTo session calls) ∧
      ∀ id ∈ postedTo session calls, id ∉ polledBy session calls ↔
        UnreadIn session (daemon.run newState calls) id ∨
          FirstMarkedOtherwise session calls id := by
  have posted_distinct : (Mailbox.posted (opsOf session calls)).Nodup := by
    rw [← Mailbox.ids_boxAfter, boxAfter_opsOf fresh]
    exact (inboxIds_run fresh).distinct session
  refine ⟨?_, ?_, fun id member => ?_⟩
  · rw [← delivered_opsOf fresh]
    exact Mailbox.delivered_nodup posted_distinct
  · rw [← delivered_opsOf fresh, ← posted_opsOf]
    exact Mailbox.delivered_sublist _
  · rw [← posted_opsOf] at member
    rw [← delivered_opsOf fresh, Mailbox.not_mem_delivered_iff posted_distinct member,
      boxAfter_opsOf fresh, unreadIn_iff, overlooked_opsOf fresh]

end Delivery

section Delivered

attribute [local instance] Chrono.utc

/-- Two messages to one agent, the first polled and the second read by its id. -/
def deliveryCalls : List Call := [
  ⟨"session.register", .object [("pid", .u64 1)], .ofSeconds 0 "a"⟩,
  ⟨"session.register", .object [("pid", .u64 2)], .ofSeconds 1 "b"⟩,
  ⟨"inbox.post", .object [("from_session", .string "sess_a"), ("to_session", .string "sess_b"),
    ("body", .string "rebase")], .ofSeconds 2 "c"⟩,
  ⟨"inbox.post", .object [("from_session", .string "sess_a"), ("to_session", .string "sess_b"),
    ("body", .string "review")], .ofSeconds 3 "d"⟩,
  ⟨"inbox.list", .object [("session_id", .string "sess_b"), ("unread_only", .bool true),
    ("limit", .u64 1)], .ofSeconds 4 "e"⟩,
  ⟨"inbox.read", .object [("message_id", .string "msg_d")], .ofSeconds 5 "f"⟩]

theorem unread_delivery_deliveryCalls :
    ¬UnreadIn "sess_b" (daemon.run newState deliveryCalls) "msg_d" ∧
      FirstMarkedOtherwise "sess_b" deliveryCalls "msg_d" := by
  have marked : ¬UnreadIn "sess_b" (daemon.run newState deliveryCalls) "msg_d" := by
    unfold UnreadIn
    decide +kernel
  have missed := ((unread_delivery (show FreshIds deliveryCalls by decide) "sess_b").2.2 "msg_d"
    (by decide +kernel)).mp (by decide +kernel)
  exact ⟨marked, missed.resolve_left marked⟩

end Delivered

end TeamComm
