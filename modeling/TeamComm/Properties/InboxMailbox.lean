import TeamComm.Daemon.Effect
import TeamComm.Library.Mailbox

/-!
# Inboxes as mailboxes

The inbox of a session is a mailbox: posts append to it, polls and browses are `inbox.list` calls
with and without `unread_only`, and `inbox.read` fetches.  Message ids being unique across inboxes,
every call does to an inbox what it asks of the mailbox.
-/

namespace TeamComm

open Json (Value)

/-- The inbox of a session as a mailbox. -/
def mailbox (session : String) (state : AppStateInner) : List (Mailbox.Slot String) :=
  ((state.inbox.get session).getD []).map fun message => ⟨message.messageId, message.read⟩

/-- The number of messages an `inbox.list` call returns at most. -/
def window (params : Value) : Nat :=
  let limit := (getU64 params "limit").getD 50
  if 0 < limit then limit.toNat else usizeMax

/-- Whether an `inbox.list` call asks for unread messages only. -/
def unreadOnly (params : Value) : Bool := (getBool params "unread_only").getD false

/-! ## Marking -/

theorem ids_slots (messages : List InboxMessage) :
    Mailbox.ids (messages.map fun message => ⟨message.messageId, message.read⟩) =
      messages.map InboxMessage.messageId := by
  simp [Mailbox.ids, Function.comp_def]

theorem slots_markRead (listed : List String) (messages : List InboxMessage) :
    (markRead listed messages).map (fun message => Mailbox.Slot.mk message.messageId message.read) =
      Mailbox.mark listed
        (messages.map fun message => Mailbox.Slot.mk message.messageId message.read) := by
  simp only [markRead, Mailbox.mark, List.map_map]
  apply List.map_congr_left
  intro message _
  simp only [Function.comp_apply]
  split <;> rfl

/-- The ids an `inbox.list` call picks are what the mailbox hands out. -/
theorem resultIds_eq_handed (session : String) (state : AppStateInner) (params : Value) :
    resultIds (unreadOnly params) ((getU64 params "limit").getD 50)
        ((state.inbox.get session).getD []) =
      Mailbox.handed (mailbox session state)
        (if unreadOnly params then .poll (window params) else .browse (window params)) := by
  cases unreadOnly params with
  | false => simp [resultIds, Mailbox.handed, mailbox, window, ids_slots, List.map_take]
  | true =>
      simp [resultIds, Mailbox.handed, mailbox, window, Mailbox.unread, Mailbox.ids, List.map_take,
        List.filter_map, Function.comp_def]

/-- Reading marks the only message of an id. -/
theorem slots_readFirst {id : String} {messages marked : List InboxMessage}
    {message : InboxMessage} (distinct : (messages.map InboxMessage.messageId).Nodup)
    (found : readFirst id messages = some (message, marked)) :
    id ∈ messages.map InboxMessage.messageId ∧
      marked.map (fun message => Mailbox.Slot.mk message.messageId message.read) =
        Mailbox.mark [id]
          (messages.map fun message => Mailbox.Slot.mk message.messageId message.read) := by
  induction messages generalizing marked message with
  | nil => cases found
  | cons head tail ih =>
      rw [List.map_cons, List.nodup_cons] at distinct
      rw [readFirst] at found
      split at found
      next here =>
        obtain ⟨rfl, rfl⟩ := Prod.mk.inj (Option.some.inj found)
        have untouched : Mailbox.mark [id]
            (tail.map fun message => Mailbox.Slot.mk message.messageId message.read) =
            tail.map fun message => Mailbox.Slot.mk message.messageId message.read := by
          rw [Mailbox.mark, List.map_map]
          apply List.map_congr_left
          intro other member
          have different : other.messageId ≠ id := fun same =>
            distinct.1 (here ▸ same ▸ List.mem_map_of_mem member)
          simp [different]
        refine ⟨by simp [here], ?_⟩
        rw [List.map_cons, List.map_cons, Mailbox.mark, List.map_cons, ← Mailbox.mark, untouched]
        simp [here]
      next elsewhere =>
        obtain ⟨⟨inner, rest⟩, inner_found, same⟩ := Option.map_eq_some_iff.mp found
        obtain ⟨rfl, rfl⟩ := Prod.mk.inj same
        obtain ⟨member, marked_tail⟩ := ih distinct.2 inner_found
        refine ⟨List.mem_cons_of_mem _ member, ?_⟩
        rw [List.map_cons, marked_tail, List.map_cons, Mailbox.mark, Mailbox.mark, List.map_cons]
        simp [elsewhere]

/-! ## Message ids -/

/-- Message ids were minted, each for one place of one inbox. -/
structure InboxIds (spent : List String) (state : AppStateInner) : Prop where
  minted : ∀ session, ∀ id ∈ Mailbox.ids (mailbox session state),
    ∃ env : Env, env.uuid ∈ spent ∧ id = env.mintMessageId
  distinct : ∀ session, (Mailbox.ids (mailbox session state)).Nodup
  apart : ∀ {session other id}, id ∈ Mailbox.ids (mailbox session state) →
    id ∈ Mailbox.ids (mailbox other state) → session = other

theorem mailbox_insert (session owner : String) (messages : List InboxMessage)
    (state : AppStateInner) :
    mailbox session { state with inbox := state.inbox.insert owner messages } =
      if session = owner then
        messages.map fun message => ⟨message.messageId, message.read⟩
      else mailbox session state := by
  rw [mailbox, HashMap.get_insert]
  split <;> rfl

section Steps

variable [Chrono]

/-- A call adds the ids of an inbox at most the one it mints. -/
theorem ids_mailbox_step {state : AppStateInner} {call : Call}
    (distinct : ∀ session, (Mailbox.ids (mailbox session state)).Nodup) :
    (∀ session, Mailbox.ids (mailbox session (daemon.step state call).2) =
      Mailbox.ids (mailbox session state)) ∨
    ∃ recipient, ∀ session, Mailbox.ids (mailbox session (daemon.step state call).2) =
      Mailbox.ids (mailbox session state) ++
        if session = recipient then [call.env.mintMessageId] else [] := by
  have effect := daemon_effect call state
  generalize daemon.step state call = result at effect
  cases effect with
  | posts message _ minted =>
      refine Or.inr ⟨message.toSession, fun session => ?_⟩
      rw [mailbox_insert]
      split
      next same => simp [same, mailbox, Mailbox.ids, minted]
      next => simp
  | lists id listed =>
      refine Or.inl fun session => ?_
      rw [mailbox_insert]
      split
      next same => rw [slots_markRead, Mailbox.ids_mark, same, mailbox]
      next => rfl
  | fetches id owner messages marked message _ _ stored found =>
      have owner_box : mailbox owner state =
          messages.map fun message => ⟨message.messageId, message.read⟩ := by
        rw [mailbox, stored, Option.getD_some]
      refine Or.inl fun session => ?_
      rw [mailbox_insert]
      split
      next same =>
        have owner_distinct := distinct owner
        rw [owner_box, ids_slots] at owner_distinct
        rw [(slots_readFirst owner_distinct found).2, Mailbox.ids_mark, same, owner_box]
      next => rfl
  | _ => exact Or.inl fun _ => rfl

theorem inboxIds_step {spent : List String} {state : AppStateInner} {call : Call}
    (ids : InboxIds spent state) (fresh : call.env.uuid ∉ spent) :
    InboxIds (spent ++ [call.env.uuid]) (daemon.step state call).2 := by
  have new : ∀ session, call.env.mintMessageId ∉ Mailbox.ids (mailbox session state) := by
    intro session member
    obtain ⟨env, env_spent, same⟩ := ids.minted session _ member
    exact fresh (Env.mintMessageId_inj.mp same ▸ env_spent)
  have minted_before : ∀ session, ∀ id ∈ Mailbox.ids (mailbox session state),
      ∃ env : Env, env.uuid ∈ spent ++ [call.env.uuid] ∧ id = env.mintMessageId := by
    intro session id member
    obtain ⟨env, env_spent, same⟩ := ids.minted session id member
    exact ⟨env, List.mem_append_left _ env_spent, same⟩
  rcases ids_mailbox_step ids.distinct with same | ⟨recipient, appended⟩
  · constructor
    · exact fun session id member => minted_before session id (same session ▸ member)
    · exact fun session => same session ▸ ids.distinct session
    · intro session other id member other_member
      exact ids.apart (same session ▸ member) (same other ▸ other_member)
  · constructor
    · intro session id member
      rw [appended session, List.mem_append] at member
      rcases member with earlier | now
      · exact minted_before session id earlier
      · split at now
        · exact ⟨call.env, by simp, List.mem_singleton.mp now⟩
        · cases now
    · intro session
      rw [appended session, List.nodup_append]
      refine ⟨ids.distinct session, by split <;> simp, ?_⟩
      rintro id member other other_member rfl
      split at other_member
      · exact new session (List.mem_singleton.mp other_member ▸ member)
      · cases other_member
    · intro session other id member other_member
      rw [appended session, List.mem_append] at member
      rw [appended other, List.mem_append] at other_member
      have only_recipient : ∀ {place}, id ∈ (if place = recipient then [call.env.mintMessageId]
          else []) → place = recipient ∧ id = call.env.mintMessageId := by
        intro place now
        split at now
        next here => exact ⟨here, List.mem_singleton.mp now⟩
        next => cases now
      rcases member with earlier | now <;> rcases other_member with other_earlier | other_now
      · exact ids.apart earlier other_earlier
      · exact absurd ((only_recipient other_now).2 ▸ earlier) (new session)
      · exact absurd ((only_recipient now).2 ▸ other_earlier) (new other)
      · exact (only_recipient now).1.trans (only_recipient other_now).1.symm

theorem inboxIds_run {calls : List Call} (fresh : FreshIds calls) :
    InboxIds (calls.map fun call => call.env.uuid) (daemon.run newState calls) := by
  refine Mealy.invariant_fresh ?_ (fun _ _ _ ids new => inboxIds_step ids new) fresh
  constructor <;> simp [mailbox, newState, Mailbox.ids]

end Steps

/-! ## The mailbox follows the daemon -/

/-- The id which an answer to `inbox.post` names. -/
def repliedId (reply : Value) : Option String := (reply.get "message_id").bind Json.asStr

/-- The ids of the messages in an answer to `inbox.list`. -/
def repliedIds (reply : Value) : List String :=
  (reply.doc.asArray.getD []).filterMap fun item => (item.member "message_id").bind Json.asStr

/-- A call lists the messages of a session, all or unread ones. -/
def Lists (session : String) (call : Call) : Prop :=
  call.method = "inbox.list" ∧ getStr call.params "session_id" = some session

/-- A call reads a message by its id. -/
def ReadsId (id : String) (call : Call) : Prop :=
  call.method = "inbox.read" ∧ getStr call.params "message_id" = some id

/-- What an `inbox.list` call asks of the mailbox. -/
def listOp (call : Call) : Mailbox.Op String :=
  if unreadOnly call.params then .poll (window call.params) else .browse (window call.params)

/-- What a call asks of the mailbox of a session. -/
def opOf (session : String) (step : CallStep) : Mailbox.Op String :=
  match step.output with
  | .error _ => .idle
  | .ok reply =>
      if step.event.method = "inbox.post" then
        if getStr step.event.params "to_session" = some session then
          (repliedId reply).elim .idle .post
        else .idle
      else if step.event.method = "inbox.list" then
        if getStr step.event.params "session_id" = some session then listOp step.event else .idle
      else if step.event.method = "inbox.read" then
        (getStr step.event.params "message_id").elim .idle .fetch
      else .idle

theorem opOf_list {session : String} {step : CallStep} {reply : Value}
    (lists : Lists session step.event) (answered : step.output = .ok reply) :
    opOf session step = listOp step.event := by
  simp [opOf, lists.1, lists.2, answered]

theorem opOf_read {session id : String} {step : CallStep} {reply : Value}
    (reads : ReadsId id step.event) (answered : step.output = .ok reply) :
    opOf session step = .fetch id := by
  simp [opOf, reads.1, reads.2, answered]

/-- All that a call can ask of a mailbox. -/
theorem opOf_cases (session : String) (step : CallStep) :
    opOf session step = .idle ∨ (∃ id, opOf session step = .post id) ∨
      (Lists session step.event ∧ opOf session step = listOp step.event) ∨
      ∃ id, ReadsId id step.event ∧ opOf session step = .fetch id := by
  unfold opOf
  split
  · exact Or.inl rfl
  next reply _ =>
    split_ifs with post addressed list named read
    · cases repliedId reply with
      | none => exact Or.inl rfl
      | some id => exact Or.inr (Or.inl ⟨id, rfl⟩)
    · exact Or.inl rfl
    · exact Or.inr (Or.inr (Or.inl ⟨⟨list, named⟩, rfl⟩))
    · exact Or.inl rfl
    · cases wanted : getStr step.event.params "message_id" with
      | none => exact Or.inl rfl
      | some id => exact Or.inr (Or.inr (Or.inr ⟨id, ⟨read, wanted⟩, rfl⟩))
    · exact Or.inl rfl

theorem next_idle (box : List (Mailbox.Slot String)) : Mailbox.next box .idle = box := by
  simp [Mailbox.next, Mailbox.handed, Mailbox.mark]

theorem next_list (session : String) (state : AppStateInner) (call : Call) :
    Mailbox.next (mailbox session state) (listOp call) =
      Mailbox.mark (resultIds (unreadOnly call.params) ((getU64 call.params "limit").getD 50)
        ((state.inbox.get session).getD [])) (mailbox session state) := by
  rw [resultIds_eq_handed, listOp]
  split <;> rfl

section Refinement

variable [Chrono]

/-- Every call does to an inbox what it asks of the mailbox. -/
theorem mailbox_follows {state : AppStateInner} {spent : List String} (ids : InboxIds spent state)
    (session : String) (call : Call) :
    Mailbox.next (mailbox session state) (opOf session (daemon.transition state call)) =
      mailbox session (daemon.step state call).2 := by
  rw [Mealy.transition]
  have effect := daemon_effect call state
  generalize daemon.step state call = result at effect
  cases effect with
  | fails => exact next_idle _
  | answers value query =>
      have other : call.method ∉ ["inbox.post", "inbox.list", "inbox.read"] := by
        intro inbox
        simp only [queryMethods, List.mem_cons, List.not_mem_nil, or_false] at query inbox
        rcases query with method | method | method | method | method <;> simp [method] at inbox
      simp only [List.mem_cons, List.not_mem_nil, or_false, not_or] at other
      simp [opOf, other, next_idle]
  | posts message method _ unread addressed =>
      have named : repliedId (.object [("message_id", .string message.messageId)]) =
          some message.messageId := by
        simp [repliedId, Value.get_object]
      rw [mailbox_insert]
      by_cases here : session = message.toSession
      · simp [opOf, method, addressed, here, named, Mailbox.next, mailbox, unread]
      · simp [opOf, method, addressed, here, Ne.symm here, next_idle]
  | lists id listed method named same =>
      rw [mailbox_insert]
      by_cases here : session = id
      · subst here
        rw [opOf_list ⟨method, named⟩ rfl, if_pos rfl, slots_markRead, next_list, same]
        rfl
      · simp [opOf, method, named, here, Ne.symm here, next_idle]
  | fetches id owner messages marked message method named stored found =>
      have owner_box : mailbox owner state =
          messages.map fun message => ⟨message.messageId, message.read⟩ := by
        rw [mailbox, stored, Option.getD_some]
      have owner_distinct := ids.distinct owner
      rw [owner_box, ids_slots] at owner_distinct
      obtain ⟨member, marked_slots⟩ := slots_readFirst owner_distinct found
      rw [← ids_slots, ← owner_box] at member
      rw [opOf_read ⟨method, named⟩ rfl, mailbox_insert]
      split
      next here =>
        rw [marked_slots, here, ← owner_box]
        simp only [Mailbox.next, Mailbox.handed, if_pos member]
      next elsewhere =>
        have absent : id ∉ Mailbox.ids (mailbox session state) := fun here =>
          elsewhere (ids.apart here member)
        simp [Mailbox.next, Mailbox.handed, absent, Mailbox.mark]
  | registers _ method | deregisters _ _ method | forgets _ method | claims _ method
  | releases _ method | publishes _ method =>
      simp only [opOf, method]
      exact next_idle _
  | refreshes _ _ _ method =>
      rcases method with method | method
      all_goals
        simp only [opOf, method]
        exact next_idle _

end Refinement

end TeamComm
