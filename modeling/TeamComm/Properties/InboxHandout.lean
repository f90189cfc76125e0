import TeamComm.Properties.InboxPolling

/-!
# Messages handed out

Which messages the reply of a call carries, and how handing them out bears on their flags: a call
marks a message exactly when its reply carries the message.
-/

namespace TeamComm

open Json (Value)

/-- The ids of the messages which an `inbox.list` call asks for. -/
def requested (session : String) (state : AppStateInner) (call : Call) : List String :=
  if unreadOnly call.params then (unreadIds session state).take (window call.params)
  else (inboxIds session state).take (window call.params)

/-- A call hands out a message of an inbox. -/
def HandsOut (session : String) (state : AppStateInner) (call : Call) (id : String) : Prop :=
  Lists session call ∧ id ∈ requested session state call ∨
    ReadsId id call ∧ id ∈ inboxIds session state

/-- The ids of the messages which the reply of a call carries. -/
def carriedIds (call : Call) (reply : Value) : List String :=
  if call.method = "inbox.list" then repliedIds reply
  else if call.method = "inbox.read" then (repliedId reply).toList
  else []

theorem requested_eq_handed (session : String) (state : AppStateInner) (call : Call) :
    requested session state call = Mailbox.handed (mailbox session state) (listOp call) := by
  rw [requested, listOp, ← ids_mailbox, ← unread_mailbox]
  split <;> rfl

/-! ## Marked messages -/

/-- A message was posted and is marked as read. -/
def Marked (state : AppStateInner) (id : String) : Prop :=
  ∃ session, id ∈ inboxIds session state ∧ ¬UnreadIn session state id

theorem mem_inboxIds_of_unreadIn {session id : String} {state : AppStateInner}
    (pending : UnreadIn session state id) : id ∈ inboxIds session state := by
  rw [unreadIn_iff] at pending
  exact ids_mailbox session state ▸ (Mailbox.unread_sublist _).subset pending

theorem not_marked_of_unreadIn {spent : List String} {session id : String} {state : AppStateInner}
    (ids : InboxIds spent state) (pending : UnreadIn session state id) : ¬Marked state id := by
  rintro ⟨other, member, read⟩
  have here := mem_inboxIds_of_unreadIn pending
  rw [← ids_mailbox] at here member
  exact read (ids.apart here member ▸ pending)

/-! ## Reading by id -/

theorem readFirst_id {id : String} {messages marked : List InboxMessage} {message : InboxMessage}
    (found : readFirst id messages = some (message, marked)) : message.messageId = id := by
  induction messages generalizing marked with
  | nil => cases found
  | cons head tail ih =>
      rw [readFirst] at found
      split at found
      next here =>
        obtain ⟨rfl, -⟩ := Prod.mk.inj (Option.some.inj found)
        exact here
      next =>
        obtain ⟨⟨inner, rest⟩, inner_found, same⟩ := Option.map_eq_some_iff.mp found
        obtain ⟨rfl, -⟩ := Prod.mk.inj same
        exact ih inner_found

theorem readFirst_isSome {id : String} {messages : List InboxMessage}
    (member : id ∈ messages.map InboxMessage.messageId) :
    (readFirst id messages).isSome = true := by
  induction messages with
  | nil => cases member
  | cons head tail ih =>
      rw [readFirst]
      split
      · rfl
      next elsewhere =>
        rw [List.map_cons, List.mem_cons] at member
        rw [Option.isSome_map]
        exact ih (member.resolve_left (Ne.symm elsewhere))

section Handout

variable [Chrono] {state : AppStateInner} {call : Call} {session id : String}

/-- Reading a stored message succeeds, and the reply carries just this message. -/
theorem carriedIds_read (reads : ReadsId id call) (member : id ∈ inboxIds session state) :
    ∃ reply, (daemon.step state call).1 = .ok reply ∧ carriedIds call reply = [id] := by
  change ∃ reply, ((dispatch call.method call.params call.env).exec state).1 = .ok reply ∧ _
  simp only [reads.1, dispatch, handleInboxRead, Handler.exec_check_bind,
    requiredStr_eq_ok.mpr reads.2, Handler.exec_get_bind]
  split
  next owner message marked found =>
    obtain ⟨entry, -, here⟩ := List.exists_of_findSome?_eq_some found
    obtain ⟨⟨inner, rest⟩, inner_found, same⟩ := Option.map_eq_some_iff.mp here
    cases same
    refine ⟨_, rfl, ?_⟩
    simp [carriedIds, reads.1, repliedId_message, readFirst_id inner_found]
  next missing =>
    cases stored : state.inbox.get session with
    | none => simp [inboxIds, stored] at member
    | some messages =>
        rw [inboxIds, stored, Option.getD_some] at member
        have not_found := List.findSome?_eq_none_iff.mp missing ⟨session, messages⟩
          (IterOrder.mem_arrange.mpr (HashMap.mem_entries.mpr stored))
        rw [Option.map_eq_none_iff] at not_found
        have found := readFirst_isSome member
        rw [not_found] at found
        cases found

/-- A call asks the mailbox for exactly the messages which it hands out. -/
theorem mem_handed_iff :
    id ∈ Mailbox.handed (mailbox session state) (opOf session (daemon.transition state call)) ↔
      HandsOut session state call id := by
  constructor
  · intro out
    rcases opOf_cases session (daemon.transition state call) with
      idle | ⟨other, post⟩ | ⟨lists, list⟩ | ⟨other, reads, fetch⟩
    · rw [idle] at out
      cases out
    · rw [post] at out
      cases out
    · rw [list] at out
      exact Or.inl ⟨lists, requested_eq_handed session state call ▸ out⟩
    · rw [fetch, Mailbox.handed] at out
      split at out
      next member =>
        obtain rfl := List.mem_singleton.mp out
        exact Or.inr ⟨reads, ids_mailbox session state ▸ member⟩
      next => cases out
  · rintro (⟨lists, member⟩ | ⟨reads, member⟩)
    · obtain ⟨listed, -, step⟩ := @step_inboxList _ _ state _ lists.1 lists.2
      rw [opOf_list lists (congrArg Prod.fst step)]
      exact requested_eq_handed session state call ▸ member
    · obtain ⟨reply, answered, -⟩ := carriedIds_read reads member
      rw [opOf_read reads answered, Mailbox.handed, ids_mailbox, if_pos member]
      exact List.mem_singleton_self id

theorem carriedIds_list (distinct : (inboxIds session state).Nodup) (lists : Lists session call) :
    ∃ reply, (daemon.step state call).1 = .ok reply ∧
      carriedIds call reply = requested session state call := by
  obtain ⟨listed, -, step⟩ := @step_inboxList _ _ state _ lists.1 lists.2
  have returned := returnedIds_list (ids_mailbox session state ▸ distinct) lists
  rw [step, returnedIds] at returned
  refine ⟨_, congrArg Prod.fst step, ?_⟩
  rw [carriedIds, if_pos lists.1, returned, requested_eq_handed]

/-- The reply of a call carries the messages which the call hands out. -/
theorem mem_carriedIds_iff (distinct : ∀ session, (inboxIds session state).Nodup) :
    (∃ reply, (daemon.step state call).1 = .ok reply ∧ id ∈ carriedIds call reply) ↔
      ∃ session, HandsOut session state call id := by
  constructor
  · rintro ⟨reply, answered, carried⟩
    have effect := daemon_effect call state
    generalize result_eq : daemon.step state call = result at effect answered
    cases effect with
    | fails => cases answered
    | lists session listed method named =>
        have lists : Lists session call := ⟨method, named⟩
        obtain ⟨listed_reply, listed_answered, listed_carried⟩ :=
          carriedIds_list (distinct session) lists
        rw [result_eq] at listed_answered
        obtain rfl := Except.ok.inj (answered.symm.trans listed_answered)
        exact ⟨session, Or.inl ⟨lists, listed_carried ▸ carried⟩⟩
    | fetches wanted owner messages marked message method named stored found =>
        obtain rfl := Except.ok.inj answered
        have same : id = wanted := by
          simpa [carriedIds, method, repliedId_message, readFirst_id found] using carried
        subst same
        refine ⟨owner, Or.inr ⟨⟨method, named⟩, ?_⟩⟩
        have owner_distinct := distinct owner
        rw [inboxIds, stored, Option.getD_some] at owner_distinct ⊢
        exact (slots_readFirst owner_distinct found).1
    | answers value query =>
        have other : call.method ≠ "inbox.list" ∧ call.method ≠ "inbox.read" := by
          constructor
          all_goals
            intro method
            exact absurd (method ▸ query) (by decide)
        simp [carriedIds, other] at carried
    | registers _ method | deregisters _ _ method | forgets _ method | claims _ method
    | releases _ method | posts _ method | publishes _ method =>
        simp [carriedIds, method] at carried
    | refreshes _ _ _ method =>
        rcases method with method | method <;> simp [carriedIds, method] at carried
  · rintro ⟨session, ⟨lists, member⟩ | ⟨reads, member⟩⟩
    · obtain ⟨reply, answered, carried⟩ := carriedIds_list (distinct session) lists
      exact ⟨reply, answered, carried ▸ member⟩
    · obtain ⟨reply, answered, carried⟩ := carriedIds_read reads member
      exact ⟨reply, answered, carried ▸ List.mem_singleton_self id⟩

/-! ## Flags -/

/-- An unread message is marked by the calls which hand it out, and by no other. -/
theorem unreadIn_step_iff {spent : List String} (ids : InboxIds spent state)
    (pending : UnreadIn session state id) :
    UnreadIn session (daemon.step state call).2 id ↔ ¬HandsOut session state call id := by
  rw [unreadIn_iff] at pending ⊢
  rw [← mailbox_follows ids, Mailbox.mem_unread_next_iff pending, mem_handed_iff]

/-- A message which a call posts is unread. -/
theorem unreadIn_of_new {spent : List String} (ids : InboxIds spent state)
    (member : id ∈ inboxIds session (daemon.step state call).2)
    (new : id ∉ inboxIds session state) : UnreadIn session (daemon.step state call).2 id := by
  rw [← ids_mailbox] at member new
  rw [unreadIn_iff]
  rw [← mailbox_follows ids] at member ⊢
  exact Mailbox.mem_unread_next_of_new member new

theorem marked_of_handsOut {spent : List String} (ids : InboxIds spent state)
    (out : HandsOut session state call id) : Marked (daemon.step state call).2 id := by
  rw [← mem_handed_iff] at out
  refine ⟨session, ?_, ?_⟩
  · rw [← ids_mailbox, ← mailbox_follows ids]
    exact Mailbox.ids_subset_next _ _ (Mailbox.handed_subset _ _ out)
  · rw [unreadIn_iff, ← mailbox_follows ids]
    exact Mailbox.not_mem_unread_next_of_handed out

/-- A mark stays. -/
theorem marked_step {spent : List String} (ids : InboxIds spent state)
    (distinct : ∀ session, (inboxIds session (daemon.step state call).2).Nodup)
    (marked : Marked state id) : Marked (daemon.step state call).2 id := by
  obtain ⟨session, member, read⟩ := marked
  have still_distinct := distinct session
  rw [← ids_mailbox] at member
  rw [unreadIn_iff] at read
  rw [← ids_mailbox, ← mailbox_follows ids] at still_distinct
  refine ⟨session, ?_, ?_⟩
  · rw [← ids_mailbox, ← mailbox_follows ids]
    exact Mailbox.ids_subset_next _ _ member
  · rw [unreadIn_iff, ← mailbox_follows ids]
    exact Mailbox.not_mem_unread_next still_distinct member read

/-- What was posted to a session is what its inbox holds. -/
theorem postedTo_eq {calls : List Call} (fresh : FreshIds calls) (session : String) :
    postedTo session calls = inboxIds session (daemon.run newState calls) := by
  rw [← posted_opsOf, ← Mailbox.ids_boxAfter, boxAfter_opsOf fresh, ids_mailbox]

end Handout

end TeamComm
