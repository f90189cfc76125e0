import TeamComm.Properties.InboxHandout
import TeamComm.Properties.InboxListing

/-!
# Well-formed inboxes

Inboxes hold messages for their owner, in the order of the clock, with ids of their own; a call only
appends a message or opens some.  So at most one inbox holds a message id, and the search of
`inbox.read` finds the same message whatever order it visits the inboxes in.
-/

namespace TeamComm

open Json (Value)

/-- The messages in the inbox of a session. -/
def inboxOf (state : AppStateInner) (session : String) : List InboxMessage :=
  (state.inbox.get session).getD []

/-- A message is as before, or was opened. -/
def Opens (old new : InboxMessage) : Prop := new = old ∨ new = old.opened

namespace Opens

variable {old new : InboxMessage}

theorem toSession_eq (opens : Opens old new) : new.toSession = old.toSession := by
  rcases opens with rfl | rfl <;> rfl

theorem ts_eq (opens : Opens old new) : new.ts = old.ts := by
  rcases opens with rfl | rfl <;> rfl

/-- Only the flag of a message changes. -/
theorem eq_with_read (opens : Opens old new) : new = { old with read := new.read } := by
  rcases opens with rfl | rfl <;> rfl

theorem read_of_read (opens : Opens old new) (read : old.read = true) : new.read = true := by
  rcases opens with rfl | rfl
  · exact read
  · rfl

end Opens

private theorem exists_new {old new : List InboxMessage} (opens : List.Forall₂ Opens old new) :
    ∀ message ∈ old, ∃ kept ∈ new, Opens message kept := by
  induction opens with
  | nil => simp
  | cons opened _ ih =>
      rw [List.forall_mem_cons]
      refine ⟨⟨_, List.mem_cons_self, opened⟩, fun message member => ?_⟩
      obtain ⟨kept, kept_member, inner⟩ := ih message member
      exact ⟨kept, List.mem_cons_of_mem _ kept_member, inner⟩

private theorem exists_old {old new : List InboxMessage} (opens : List.Forall₂ Opens old new) :
    ∀ kept ∈ new, ∃ message ∈ old, Opens message kept := by
  induction opens with
  | nil => simp
  | cons opened _ ih =>
      rw [List.forall_mem_cons]
      refine ⟨⟨_, List.mem_cons_self, opened⟩, fun kept member => ?_⟩
      obtain ⟨message, message_member, inner⟩ := ih kept member
      exact ⟨message, List.mem_cons_of_mem _ message_member, inner⟩

private theorem stamps_eq {old new : List InboxMessage} (opens : List.Forall₂ Opens old new) :
    new.map InboxMessage.ts = old.map InboxMessage.ts := by
  induction opens with
  | nil => rfl
  | cons opened _ ih => rw [List.map_cons, List.map_cons, opened.ts_eq, ih]

/-! ## What a call does to an inbox -/

theorem opens_markRead (listed : List String) (messages : List InboxMessage) :
    List.Forall₂ Opens messages (markRead listed messages) := by
  induction messages with
  | nil => exact List.Forall₂.nil
  | cons message messages ih =>
      refine List.Forall₂.cons ?_ ih
      dsimp only
      split
      · exact Or.inr rfl
      · exact Or.inl rfl

/-- Reading opens the first message with the id and hands it out. -/
theorem opens_readFirst {id : String} {messages marked : List InboxMessage} {found : InboxMessage}
    (search : readFirst id messages = some (found, marked)) :
    (∃ message ∈ messages, message.messageId = id ∧ found = message.opened) ∧
      List.Forall₂ Opens messages marked := by
  induction messages generalizing marked with
  | nil => cases search
  | cons head tail ih =>
      rw [readFirst] at search
      split at search
      next here =>
        obtain ⟨rfl, rfl⟩ := Prod.mk.inj (Option.some.inj search)
        exact ⟨⟨head, List.mem_cons_self, here, rfl⟩,
          List.Forall₂.cons (Or.inr rfl) (List.forall₂_same.mpr fun _ _ => Or.inl rfl)⟩
      next =>
        obtain ⟨⟨inner, rest⟩, inner_found, same⟩ := Option.map_eq_some_iff.mp search
        obtain ⟨rfl, rfl⟩ := Prod.mk.inj same
        obtain ⟨⟨message, member, named, opened⟩, tail_opens⟩ := ih inner_found
        exact ⟨⟨message, List.mem_cons_of_mem _ member, named, opened⟩,
          List.Forall₂.cons (Or.inl rfl) tail_opens⟩

/-- What a call can do to the inboxes. -/
inductive InboxChange (call : Call) (state after : AppStateInner) : Prop
  | untouched (same : after.inbox = state.inbox)
  | posted (message : InboxMessage) (stamped : message.ts = call.env.now)
      (appended : after.inbox = state.inbox.insert message.toSession
        (inboxOf state message.toSession ++ [message]))
  | opened (owner : String) (messages : List InboxMessage)
      (opens : List.Forall₂ Opens (inboxOf state owner) messages)
      (stored : after.inbox = state.inbox.insert owner messages)

theorem inboxOf_insert {state after : AppStateInner} {owner : String} {messages : List InboxMessage}
    (stored : after.inbox = state.inbox.insert owner messages) (session : String) :
    inboxOf after session = if session = owner then messages else inboxOf state session := by
  rw [inboxOf, stored, HashMap.get_insert]
  split <;> rfl

section Search

variable {state : AppStateInner} {spent : List String}

/-- A message id belongs to one message of one inbox. -/
theorem same_message (ids : InboxIds spent state) {session other : String}
    {message another : InboxMessage} (member : message ∈ inboxOf state session)
    (other_member : another ∈ inboxOf state other)
    (same : message.messageId = another.messageId) : session = other ∧ message = another := by
  have here : message.messageId ∈ Mailbox.ids (mailbox session state) :=
    ids_mailbox session state ▸ List.mem_map_of_mem member
  have there : another.messageId ∈ Mailbox.ids (mailbox other state) :=
    ids_mailbox other state ▸ List.mem_map_of_mem other_member
  obtain rfl := ids.apart here (same ▸ there)
  exact ⟨rfl, List.inj_on_of_nodup_map (inboxIds_nodup ids session) member other_member same⟩

/-- The search of a read ends at the same inbox in every order. -/
theorem search_arranged (ids : InboxIds spent state) (id : String) (order : IterOrder) :
    (order.arrange state.inbox.entries).findSome? (fun entry =>
        (readFirst id entry.2).map fun (message, messages) => (entry.1, message, messages)) =
      state.inbox.entries.findSome? fun entry =>
        (readFirst id entry.2).map fun (message, messages) => (entry.1, message, messages) := by
  apply IterOrder.findSome?_arrange
  rintro ⟨owner, messages⟩ member ⟨other, another⟩ other_member found other_found
  rw [HashMap.mem_entries] at member other_member
  rw [Option.isSome_map, Option.isSome_iff_exists] at found other_found
  obtain ⟨⟨_, _⟩, search⟩ := found
  obtain ⟨⟨_, _⟩, other_search⟩ := other_found
  obtain ⟨⟨left, left_member, left_id, -⟩, -⟩ := opens_readFirst search
  obtain ⟨⟨right, right_member, right_id, -⟩, -⟩ := opens_readFirst other_search
  have left_stored : left ∈ inboxOf state owner := by rwa [inboxOf, member]
  have right_stored : right ∈ inboxOf state other := by rwa [inboxOf, other_member]
  obtain ⟨rfl, -⟩ := same_message ids left_stored right_stored (left_id.trans right_id.symm)
  obtain rfl := Option.some.inj (member.symm.trans other_member)
  rfl

theorem read_inboxRead {call : Call} {id : String} (reads : ReadsId id call) :
    Request.read call.method call.params = .ok (.inboxRead id) := by
  rw [reads.1, Request.read, requiredStr_eq_ok.mpr reads.2]
  rfl

end Search

section Steps

variable [Chrono]

theorem inbox_change (state : AppStateInner) (call : Call) :
    InboxChange call state (daemon.step state call).2 := by
  cases read : Request.read call.method call.params with
  | error error =>
      rw [Request.step_of_error state read]
      exact .untouched rfl
  | ok request =>
      rw [Request.step_of_read state read]
      cases request with
      | inboxPost fromSession toSession subject body priority =>
          rw [Request.perform]
          split
          · exact .posted ⟨call.env.mintMessageId, fromSession, toSession, subject, body, priority,
              call.env.now, false⟩ rfl rfl
          · exact .untouched rfl
      | inboxList sessionId unreadOnly limit =>
          exact .opened sessionId _ (opens_markRead _ _) rfl
      | inboxRead messageId =>
          rw [Request.perform]
          split
          next owner message messages found =>
            obtain ⟨⟨key, stored⟩, member, here⟩ := List.exists_of_findSome?_eq_some found
            obtain ⟨⟨inner, marked⟩, search, same⟩ := Option.map_eq_some_iff.mp here
            cases same
            have inbox : inboxOf state key = stored := by
              rw [inboxOf, HashMap.mem_entries.mp (IterOrder.mem_arrange.mp member),
                Option.getD_some]
            exact .opened key _ (inbox ▸ (opens_readFirst search).2) rfl
          next => exact .untouched rfl
      | _ => exact .untouched (Request.inbox_perform rfl call.env state)

/-- Between two states no message disappears, nothing but a flag changes, and no flag is taken
back. -/
def KeepsInboxes (before after : AppStateInner) : Prop :=
  ∀ session, ∀ message ∈ inboxOf before session, ∃ kept ∈ inboxOf after session,
    kept = { message with read := kept.read } ∧ (message.read = true → kept.read = true)

theorem keepsInboxes_step (state : AppStateInner) (call : Call) :
    KeepsInboxes state (daemon.step state call).2 := by
  intro session message member
  have same : message = { message with read := message.read } := rfl
  cases inbox_change state call with
  | untouched unchanged =>
      refine ⟨message, ?_, same, id⟩
      rwa [inboxOf, unchanged]
  | posted posted _ appended =>
      refine ⟨message, ?_, same, id⟩
      rw [inboxOf_insert appended]
      split
      next here => exact List.mem_append_left _ (here ▸ member)
      next => exact member
  | opened owner messages opens stored =>
      rw [inboxOf_insert stored]
      split
      next here =>
        obtain ⟨kept, kept_member, opened⟩ := exists_new opens message (here ▸ member)
        exact ⟨kept, kept_member, opened.eq_with_read, opened.read_of_read⟩
      next => exact ⟨message, member, same, id⟩

/-! ## Inboxes of a run -/

/-- Inboxes hold messages for their owner, stamped by the calls of a run and sorted. -/
structure InboxesSorted (calls : List Call) (state : AppStateInner) : Prop where
  /-- A message lies in the inbox of the session it is for. -/
  addressed : ∀ session, ∀ message ∈ inboxOf state session, message.toSession = session
  /-- A message carries the clock reading of a call. -/
  stamped : ∀ session, ∀ message ∈ inboxOf state session, ∃ call ∈ calls, message.ts = call.env.now
  /-- No message was posted before one in front of it. -/
  sorted : ∀ session, (inboxOf state session).Pairwise fun earlier later => earlier.ts ≤ later.ts

theorem inboxesSorted_step {calls : List Call} {state : AppStateInner} {call : Call}
    (inboxes : InboxesSorted calls state)
    (clock : ∀ earlier ∈ calls, earlier.env.now ≤ call.env.now) :
    InboxesSorted (calls ++ [call]) (daemon.step state call).2 := by
  have earlier : ∀ session, ∀ message ∈ inboxOf state session,
      ∃ stamp ∈ calls ++ [call], message.ts = stamp.env.now := by
    intro session message member
    obtain ⟨stamp, stamp_member, same⟩ := inboxes.stamped session message member
    exact ⟨stamp, List.mem_append_left _ stamp_member, same⟩
  cases inbox_change state call with
  | untouched unchanged =>
      have same : ∀ session, inboxOf (daemon.step state call).2 session = inboxOf state session :=
        fun session => by rw [inboxOf, unchanged, inboxOf]
      constructor
      · simpa only [same] using inboxes.addressed
      · simpa only [same] using earlier
      · simpa only [same] using inboxes.sorted
  | posted posted stamped appended =>
      have cases_member : ∀ session, ∀ message ∈ inboxOf (daemon.step state call).2 session,
          message ∈ inboxOf state session ∨ session = posted.toSession ∧ message = posted := by
        intro session message member
        rw [inboxOf_insert appended] at member
        split at member
        next here =>
          rcases List.mem_append.mp member with old | new
          · exact Or.inl (here ▸ old)
          · exact Or.inr ⟨here, List.mem_singleton.mp new⟩
        next => exact Or.inl member
      constructor
      · intro session message member
        rcases cases_member session message member with old | ⟨rfl, rfl⟩
        · exact inboxes.addressed session message old
        · rfl
      · intro session message member
        rcases cases_member session message member with old | ⟨-, rfl⟩
        · exact earlier session message old
        · exact ⟨call, by simp, stamped⟩
      · intro session
        rw [inboxOf_insert appended]
        split
        next =>
          refine List.pairwise_append.mpr ⟨inboxes.sorted _, List.pairwise_singleton _ _, ?_⟩
          intro message member new new_member
          obtain rfl := List.mem_singleton.mp new_member
          obtain ⟨stamp, stamp_member, same⟩ := inboxes.stamped _ message member
          rw [same, stamped]
          exact clock stamp stamp_member
        next => exact inboxes.sorted session
  | opened owner messages opens stored =>
      have source : ∀ session, ∀ message ∈ inboxOf (daemon.step state call).2 session,
          ∃ old ∈ inboxOf state session, Opens old message := by
        intro session message member
        rw [inboxOf_insert stored] at member
        split at member
        next here => exact here ▸ exists_old opens message member
        next => exact ⟨message, member, Or.inl rfl⟩
      constructor
      · intro session message member
        obtain ⟨old, old_member, opened⟩ := source session message member
        exact opened.toSession_eq.trans (inboxes.addressed session old old_member)
      · intro session message member
        obtain ⟨old, old_member, opened⟩ := source session message member
        exact opened.ts_eq ▸ earlier session old old_member
      · intro session
        rw [inboxOf_insert stored]
        split
        next =>
          have in_order := List.pairwise_map.mpr (inboxes.sorted owner)
          rw [← stamps_eq opens] at in_order
          exact List.pairwise_map.mp in_order
        next => exact inboxes.sorted session

theorem inboxesSorted_run {calls : List Call}
    (clock : (calls.map fun call => call.env.now).Pairwise (· ≤ ·)) :
    InboxesSorted calls (daemon.run newState calls) := by
  refine Mealy.history_invariant ?_ ?_ calls (List.prefix_refl _)
  · constructor <;> simp [inboxOf, newState]
  · intro front call back whole inboxes
    rw [whole, List.pairwise_map, List.pairwise_append] at clock
    exact inboxesSorted_step inboxes fun earlier member =>
      clock.2.2 earlier member call List.mem_cons_self

/-! ## Reading by id -/

variable {state : AppStateInner} {spent : List String}

/-- Reads of one id do the same. -/
theorem step_read_eq (ids : InboxIds spent state) {id : String} {call other : Call}
    (reads : ReadsId id call) (other_reads : ReadsId id other) :
    daemon.step state other = daemon.step state call := by
  rw [Request.step_of_read state (read_inboxRead reads),
    Request.step_of_read state (read_inboxRead other_reads), Request.perform, Request.perform,
    search_arranged ids, search_arranged ids]

/-- A read hands out a stored message with the id, or finds none in any inbox. -/
theorem read_cases {id : String} {call : Call} (reads : ReadsId id call) :
    (∃ session, ∃ message ∈ inboxOf state session, message.messageId = id ∧
      (daemon.step state call).1 = .ok message.opened.toValue) ∨
    (∀ session, ∀ message ∈ inboxOf state session, message.messageId ≠ id) ∧
      (daemon.step state call).1 = .error (.error (.notFound s!"message {id}")) := by
  rw [Request.step_of_read state (read_inboxRead reads), Request.perform]
  split
  next owner found messages search =>
    obtain ⟨⟨key, stored⟩, member, here⟩ := List.exists_of_findSome?_eq_some search
    obtain ⟨⟨inner, marked⟩, inner_found, same⟩ := Option.map_eq_some_iff.mp here
    cases same
    obtain ⟨⟨message, message_member, named, rfl⟩, -⟩ := opens_readFirst inner_found
    have inbox : inboxOf state key = stored := by
      rw [inboxOf, HashMap.mem_entries.mp (IterOrder.mem_arrange.mp member), Option.getD_some]
    exact Or.inl ⟨key, message, inbox ▸ message_member, named, rfl⟩
  next missing =>
    refine Or.inr ⟨fun session message member named => ?_, rfl⟩
    cases stored : state.inbox.get session with
    | none => simp [inboxOf, stored] at member
    | some messages =>
        rw [inboxOf, stored, Option.getD_some] at member
        have absent := List.findSome?_eq_none_iff.mp missing ⟨session, messages⟩
          (IterOrder.mem_arrange.mpr (HashMap.mem_entries.mpr stored))
        have listed : id ∈ messages.map InboxMessage.messageId :=
          named ▸ List.mem_map_of_mem member
        have present := readFirst_isSome listed
        rw [Option.map_eq_none_iff] at absent
        rw [absent] at present
        cases present

/-- In every state of a run with fresh ids and a clock which does not run backwards, ids are
distinct, messages lie with their recipients in the order of the clock and stay there, and reading
by id does not depend on the order in which inboxes are visited. -/
theorem inboxes_well_formed {calls : List Call} (fresh : FreshIds calls)
    (clock : (calls.map fun call => call.env.now).Pairwise (· ≤ ·)) :
    let state := daemon.run newState calls
    (∀ session, ((inboxOf state session).map InboxMessage.messageId).Nodup) ∧
    (∀ session other, ∀ message ∈ inboxOf state session, ∀ another ∈ inboxOf state other,
      message.messageId = another.messageId → session = other ∧ message = another) ∧
    (∀ session, ∀ message ∈ inboxOf state session, message.toSession = session) ∧
    (∀ session, (inboxOf state session).Pairwise fun earlier later => earlier.ts ≤ later.ts) ∧
    (∀ step ∈ daemon.trace newState calls, KeepsInboxes step.before step.after) ∧
    ∀ id call, ReadsId id call →
      (∀ other, ReadsId id other → daemon.step state other = daemon.step state call) ∧
      (∀ session, ∀ message ∈ inboxOf state session, message.messageId = id →
        (daemon.step state call).1 = .ok message.opened.toValue) ∧
      ((daemon.step state call).1 = .error (.error (.notFound s!"message {id}")) ↔
        ∀ session, ∀ message ∈ inboxOf state session, message.messageId ≠ id) := by
  intro state
  have ids := inboxIds_run fresh
  have inboxes := inboxesSorted_run clock
  refine ⟨inboxIds_nodup ids, fun session other message member another other_member =>
    same_message ids member other_member, inboxes.addressed, inboxes.sorted, ?_, ?_⟩
  · intro step member
    obtain ⟨front, call, back, -, rfl⟩ := Mealy.mem_trace.mp member
    exact keepsInboxes_step _ call
  · intro id call reads
    refine ⟨fun other => step_read_eq ids reads, ?_, ?_⟩
    · intro session message member named
      rcases @read_cases _ state id call reads with
        ⟨other, found, found_member, found_named, answer⟩ | ⟨nowhere, -⟩
      · obtain ⟨-, rfl⟩ := same_message ids member found_member (named.trans found_named.symm)
        exact answer
      · exact absurd named (nowhere session message member)
    · rcases @read_cases _ state id call reads with
        ⟨other, found, found_member, found_named, answer⟩ | ⟨nowhere, answer⟩
      · rw [answer]
        exact iff_of_false (by simp) fun nowhere => nowhere other found found_member found_named
      · exact iff_of_true answer nowhere

end Steps

section Example

attribute [local instance] Chrono.utc

/-- Two messages to one agent and one to another. -/
def crossedCalls : List Call :=
  backlogCalls ++ [
    ⟨"inbox.post", .object [("from_session", .string "sess_a"), ("to_session", .string "sess_c"),
      ("body", .string "merge")], .ofSeconds 3 "d"⟩]

/-- Visit entries from the back. -/
def fromBack : IterOrder := ⟨List.reverse, List.reverse_perm⟩

/-- The first of two messages is read by its id. -/
def readFirstOf (order : IterOrder) : Call :=
  ⟨"inbox.read", .object [("message_id", .string "msg_b")],
    { (Env.ofSeconds 4 "e") with order }⟩

theorem inboxes_well_formed_crossedCalls :
    let state := daemon.run newState crossedCalls
    (IterOrder.stored.arrange state.inbox.entries).map Sigma.fst = ["sess_c", "sess_b"] ∧
    (fromBack.arrange state.inbox.entries).map Sigma.fst = ["sess_b", "sess_c"] ∧
    daemon.step state (readFirstOf fromBack) = daemon.step state (readFirstOf .stored) := by
  have wellFormed := inboxes_well_formed (show FreshIds crossedCalls by decide) (by decide)
  exact ⟨by decide +kernel, by decide +kernel,
    (wellFormed.2.2.2.2.2 "msg_b" (readFirstOf .stored) ⟨rfl, rfl⟩).1 (readFirstOf fromBack)
      ⟨rfl, rfl⟩⟩

end Example

end TeamComm
