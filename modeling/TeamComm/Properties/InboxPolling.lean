import TeamComm.Properties.InboxDelivery

/-!
# Repeated polling

What `inbox.list` calls in a row return together.  Without `unread_only` each of them returns the
same window at the head of the inbox, however often it is repeated; with `unread_only` each call
marks what it returns, so the window moves on until nothing is unread.
-/

namespace TeamComm

open Json (Value)

/-- The ids of the messages in an inbox, in the order of posting. -/
def inboxIds (session : String) (state : AppStateInner) : List String :=
  ((state.inbox.get session).getD []).map InboxMessage.messageId

/-- The ids of the unread messages in an inbox, in the order of posting. -/
def unreadIds (session : String) (state : AppStateInner) : List String :=
  (((state.inbox.get session).getD []).filter fun message => !message.read).map
    InboxMessage.messageId

theorem ids_mailbox (session : String) (state : AppStateInner) :
    Mailbox.ids (mailbox session state) = inboxIds session state :=
  ids_slots _

theorem inboxIds_nodup {spent : List String} {state : AppStateInner} (ids : InboxIds spent state)
    (session : String) : (inboxIds session state).Nodup :=
  ids_mailbox session state ▸ ids.distinct session

theorem unread_mailbox (session : String) (state : AppStateInner) :
    Mailbox.unread (mailbox session state) = unreadIds session state := by
  simp [Mailbox.unread, Mailbox.ids, mailbox, unreadIds, List.filter_map, Function.comp_def]

private theorem forall_mem_take_iff {ids : List String} (distinct : ids.Nodup) (limit : Nat) :
    (∀ id ∈ ids, id ∈ ids.take limit) ↔ ids.length ≤ limit := by
  constructor
  · intro covered
    have shorter := (List.subperm_of_subset distinct covered).length_le
    rw [List.length_take] at shorter
    omega
  · intro short id member
    rwa [List.take_of_length_le short]

section Polling

variable [Chrono]

/-- What calls in a row return, concatenated. -/
def returnedBy (state : AppStateInner) (calls : List Call) : List String :=
  (daemon.trace state calls).flatMap fun step => returnedIds step.output

/-- An `inbox.list` call leaves the mailbox as its request does. -/
theorem mailbox_list {session : String} {state : AppStateInner} {call : Call}
    (lists : Lists session call) :
    mailbox session (daemon.step state call).2 =
      Mailbox.next (mailbox session state) (listOp call) := by
  obtain ⟨listed, window_eq, step⟩ := @step_inboxList _ _ state _ lists.1 lists.2
  rw [step, mailbox_insert, if_pos rfl, slots_markRead, next_list, window_eq]
  rfl

theorem inboxIds_list {session : String} {state : AppStateInner} {call : Call}
    (lists : Lists session call) :
    inboxIds session (daemon.step state call).2 = inboxIds session state := by
  rw [← ids_mailbox, mailbox_list lists, listOp, ← ids_mailbox]
  split <;> exact Mailbox.ids_mark _ _

/-- Lists in a row return what the mailbox hands out to their requests. -/
theorem returned_lists {session : String} {state : AppStateInner} {calls : List Call}
    (distinct : (inboxIds session state).Nodup) (lists : ∀ call ∈ calls, Lists session call) :
    (daemon.trace state calls).map (fun step => returnedIds step.output) =
      ((Mailbox.machine String).trace (mailbox session state) (calls.map listOp)).map
        Mealy.Transition.output := by
  induction calls generalizing state with
  | nil => rfl
  | cons call calls ih =>
      have first := lists call List.mem_cons_self
      have still_distinct : (inboxIds session (daemon.step state call).2).Nodup := by
        rwa [inboxIds_list first]
      have rest := ih still_distinct fun later member =>
        lists later (List.mem_cons_of_mem _ member)
      rw [Mealy.trace_cons, List.map_cons, rest, List.map_cons, Mealy.trace_cons, List.map_cons,
        mailbox_list first]
      congr 1
      exact returnedIds_list (ids_mailbox session state ▸ distinct) first

/-- Lists of all messages in a row return the head of the inbox, each of them the same. -/
theorem returned_browses {session : String} {state : AppStateInner} {calls : List Call}
    {limit : Nat} (distinct : (inboxIds session state).Nodup)
    (browses : ∀ call ∈ calls, ListsAll session call ∧ window call.params = limit) :
    ∀ step ∈ daemon.trace state calls,
      returnedIds step.output = (inboxIds session state).take limit := by
  intro step member
  have requests : calls.map listOp = List.replicate calls.length (.browse limit) := by
    rw [List.eq_replicate_iff]
    refine ⟨List.length_map _, fun op op_member => ?_⟩
    obtain ⟨call, call_member, rfl⟩ := List.mem_map.mp op_member
    rw [listOp_all (browses call call_member).1, (browses call call_member).2]
  have outputs := returned_lists distinct fun call call_member =>
    ⟨(browses call call_member).1.1, (browses call call_member).1.2.1⟩
  have returned : returnedIds step.output ∈
      (daemon.trace state calls).map fun step => returnedIds step.output :=
    List.mem_map_of_mem member
  rw [outputs, requests] at returned
  obtain ⟨inner, inner_member, same⟩ := List.mem_map.mp returned
  rw [← same, Mailbox.handed_browses _ _ _ inner inner_member, ids_mailbox]

/-- Lists of unread messages in a row return the unread messages from the first one on. -/
theorem returned_polls {session : String} {state : AppStateInner} {calls : List Call}
    {limit : Nat} (distinct : (inboxIds session state).Nodup)
    (polls : ∀ call ∈ calls, PollsUnread session call ∧ window call.params = limit) :
    returnedBy state calls = (unreadIds session state).take (calls.length * limit) := by
  have requests : calls.map listOp = List.replicate calls.length (.poll limit) := by
    rw [List.eq_replicate_iff]
    refine ⟨List.length_map _, fun op op_member => ?_⟩
    obtain ⟨call, call_member, rfl⟩ := List.mem_map.mp op_member
    rw [listOp_unread (polls call call_member).1, (polls call call_member).2]
  have outputs := returned_lists distinct fun call call_member =>
    ⟨(polls call call_member).1.1, (polls call call_member).1.2.1⟩
  rw [returnedBy, List.flatMap_def, outputs, requests, ← List.flatMap_def,
    Mailbox.handed_polls (ids_mailbox session state ▸ distinct), unread_mailbox]

/-- Lists of all messages return the head of the inbox each time, and so all of it just when the
limit covers it; lists of unread messages return every unread message, once and in order. -/
theorem repeated_polling {calls : List Call} (fresh : FreshIds calls) (session : String)
    {limit : Nat} (positive : 1 ≤ limit) :
    let state := daemon.run newState calls
    (∀ lists : List Call,
      (∀ call ∈ lists, ListsAll session call ∧ window call.params = limit) →
      (∀ step ∈ daemon.trace state lists,
        returnedIds step.output = (inboxIds session state).take limit) ∧
      (lists ≠ [] → ((∀ id ∈ inboxIds session state, id ∈ returnedBy state lists) ↔
        (inboxIds session state).length ≤ limit))) ∧
    ∀ polls : List Call,
      (∀ call ∈ polls, PollsUnread session call ∧ window call.params = limit) →
      ((unreadIds session state).length + limit - 1) / limit ≤ polls.length →
      returnedBy state polls = unreadIds session state := by
  intro state
  have distinct : (inboxIds session state).Nodup := inboxIds_nodup (inboxIds_run fresh) session
  constructor
  · intro lists browses
    have each := returned_browses distinct browses
    refine ⟨each, fun nonempty => ?_⟩
    rw [← forall_mem_take_iff distinct]
    obtain ⟨first, rest, rfl⟩ := List.exists_cons_of_ne_nil nonempty
    have together (id : String) : id ∈ returnedBy state (first :: rest) ↔
        id ∈ (inboxIds session state).take limit := by
      rw [returnedBy, List.mem_flatMap]
      constructor
      · rintro ⟨step, member, returned⟩
        exact each step member ▸ returned
      · intro returned
        exact ⟨_, List.mem_cons_self, (each _ List.mem_cons_self).symm ▸ returned⟩
    simp only [together]
  · intro polls asked enough
    have rounds : (unreadIds session state).length + limit - 1 < (polls.length + 1) * limit :=
      (Nat.div_lt_iff_lt_mul positive).mp (Nat.lt_succ_of_le enough)
    rw [returned_polls distinct asked]
    apply List.take_of_length_le
    rw [Nat.succ_mul] at rounds
    omega

end Polling

section Window

attribute [local instance] Chrono.utc

/-- Two messages to one agent. -/
def backlogCalls : List Call := [
  ⟨"session.register", .object [("pid", .u64 1)], .ofSeconds 0 "a"⟩,
  ⟨"inbox.post", .object [("from_session", .string "sess_a"), ("to_session", .string "sess_b"),
    ("body", .string "rebase")], .ofSeconds 1 "b"⟩,
  ⟨"inbox.post", .object [("from_session", .string "sess_a"), ("to_session", .string "sess_b"),
    ("body", .string "review")], .ofSeconds 2 "c"⟩]

/-- A list of one message, of all messages or of the unread ones. -/
def listOne (unreadOnly : Bool) (uuid : String) : Call :=
  ⟨"inbox.list", .object [("session_id", .string "sess_b"), ("limit", .u64 1),
    ("unread_only", .bool unreadOnly)], .ofSeconds 3 uuid⟩

theorem repeated_polling_backlogCalls :
    returnedBy (daemon.run newState backlogCalls) [listOne true "d", listOne true "e"] =
      unreadIds "sess_b" (daemon.run newState backlogCalls) :=
  (repeated_polling (show FreshIds backlogCalls by decide) "sess_b" (le_refl 1)).2
    [listOne true "d", listOne true "e"]
    (by
      intro call member
      simp only [List.mem_cons, List.not_mem_nil, or_false] at member
      rcases member with rfl | rfl <;> exact ⟨⟨rfl, rfl, rfl⟩, rfl⟩)
    (by decide +kernel)

/-- Lists of all messages, one for each window of the inbox, need not return all of it: the second
of two messages stays behind a window of one. -/
theorem not_lists_reach_every_message :
    ¬∀ (calls : List Call) (session : String) (limit : Nat) (lists : List Call),
      FreshIds calls → 1 ≤ limit →
      (∀ call ∈ lists, ListsAll session call ∧ window call.params = limit) →
      lists.length =
        ((inboxIds session (daemon.run newState calls)).length + limit - 1) / limit →
      ∀ id ∈ inboxIds session (daemon.run newState calls),
        id ∈ returnedBy (daemon.run newState calls) lists := by
  intro reached
  have second := reached backlogCalls "sess_b" 1 [listOne false "d", listOne false "e"] (by decide)
    (le_refl 1)
    (by
      intro call member
      simp only [List.mem_cons, List.not_mem_nil, or_false] at member
      rcases member with rfl | rfl <;> exact ⟨⟨rfl, rfl, by decide⟩, rfl⟩)
    (by decide +kernel) "msg_c" (by decide +kernel)
  revert second
  decide +kernel

end Window

end TeamComm
