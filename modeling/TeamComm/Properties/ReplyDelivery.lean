import TeamComm.Daemon.Network
import TeamComm.Properties.ClientPairing
import TeamComm.Properties.InboxHandout

/-!
# Delivery of replies

What becomes of the messages a daemon hands out when connections may break.  A message is marked as
read while its call holds the lock, and written to the client afterwards.  In between it is neither
unread nor written, and a connection which ends there takes it along.
-/

namespace TeamComm

open Json (Value)

section Replies

variable [SerdeJson]

/-- The ids of the messages which a reply carries. -/
def Reply.messages (reply : Reply) : List String :=
  match requestCall reply.line, reply.envelope.get "result" with
  | some (_, call), some result => carriedIds call (.ofJson result)
  | _, _ => []

namespace Network

/-- A reply with a message was written to some client. -/
def Delivered (net : Network) (id : String) : Prop := ∃ reply ∈ net.written, id ∈ reply.messages

/-- A connection is writing a reply with a message. -/
def InFlightOn (net : Network) (connection : Nat) (id : String) : Prop :=
  ∃ reply, net.phases connection = .writing reply ∧ id ∈ reply.messages

/-- Some connection is writing a reply with a message. -/
def InFlight (net : Network) (id : String) : Prop := ∃ connection, net.InFlightOn connection id

/-- A connection other than a given one is writing a reply with a message. -/
def InFlightBeside (net : Network) (connection : Nat) (id : String) : Prop :=
  ∃ other, other ≠ connection ∧ net.InFlightOn other id

theorem inFlight_iff (net : Network) (connection : Nat) (id : String) :
    net.InFlight id ↔ net.InFlightOn connection id ∨ net.InFlightBeside connection id := by
  constructor
  · rintro ⟨other, flying⟩
    by_cases same : other = connection
    · exact Or.inl (same ▸ flying)
    · exact Or.inr ⟨other, same, flying⟩
  · rintro (flying | ⟨other, -, flying⟩)
    · exact ⟨connection, flying⟩
    · exact ⟨other, flying⟩

theorem inFlight_enter (net : Network) (connection : Nat) (phase : Phase) (id : String) :
    (net.enter connection phase).InFlight id ↔
      (∃ reply, phase = .writing reply ∧ id ∈ reply.messages) ∨
        net.InFlightBeside connection id := by
  rw [inFlight_iff _ connection]
  apply or_congr
  · simp [InFlightOn, enter]
  · apply exists_congr
    intro other
    apply and_congr_right
    intro different
    simp [InFlightOn, enter, different]

theorem inFlight_of_beside {net : Network} {connection : Nat} {id : String}
    (beside : net.InFlightBeside connection id) : net.InFlight id :=
  (inFlight_iff net connection id).mpr (Or.inr beside)

/-- A connection which writes nothing carries nothing. -/
theorem beside_of_inFlight {net : Network} {connection : Nat} {id : String}
    (quiet : ∀ reply, net.phases connection ≠ .writing reply) (flying : net.InFlight id) :
    net.InFlightBeside connection id := by
  rcases (inFlight_iff net connection id).mp flying with ⟨reply, writing, -⟩ | beside
  · exact absurd writing (quiet reply)
  · exact beside

/-- What is in flight when a connection stops writing, another one carries. -/
theorem inFlight_enter_quiet (net : Network) (connection : Nat) {phase : Phase}
    (quiet : ∀ reply, phase ≠ .writing reply) (id : String) :
    (net.enter connection phase).InFlight id ↔ net.InFlightBeside connection id := by
  rw [inFlight_enter, or_iff_right]
  rintro ⟨reply, writing, -⟩
  exact quiet reply writing

theorem delivered_snoc (net : Network) (reply : Reply) (connection : Nat) (phase : Phase)
    (id : String) :
    ({ net with written := net.written ++ [reply] }.enter connection phase).Delivered id ↔
      net.Delivered id ∨ id ∈ reply.messages := by
  simp only [Delivered, enter, List.mem_append, List.mem_singleton, or_and_right, exists_or,
    exists_eq_left]

end Network

variable [Chrono]

/-- A processed line leaves its connection writing the messages which its call hands out. -/
theorem mem_messages_processLine {text id : String} {env : Env} {state after : AppStateInner}
    {outcome : LineOutcome} (pass : processLine text env state = (outcome, after)) :
    (∃ reply, outcome.phase (text, env) = .writing reply ∧ id ∈ reply.messages) ↔
      ∃ rpcId call value, requestCall (text, env) = some (rpcId, call) ∧
        (daemon.step state call).1 = .ok value ∧ id ∈ carriedIds call value := by
  have line_of : ∀ {outcome : LineOutcome} {reply}, outcome.phase (text, env) = .writing reply →
      reply.line = (text, env) := by
    rintro (_ | envelope | _) reply phase <;> cases phase
    rfl
  cases request : requestCall (text, env) with
  | none =>
      constructor
      · rintro ⟨reply, phase, member⟩
        rw [Reply.messages, line_of phase, request] at member
        cases member
      · rintro ⟨rpcId, call, value, other, -⟩
        cases other
  | some addressed =>
      obtain ⟨rpcId, call⟩ := addressed
      obtain rfl : outcome = answer rpcId (daemon.step state call).1 :=
        congrArg Prod.fst (pass.symm.trans (processLine_request env state request))
      constructor
      · rintro ⟨reply, phase, member⟩
        refine ⟨rpcId, call, ?_⟩
        generalize (daemon.step state call).1 = output at phase ⊢
        rcases output with ⟨error | message⟩ | value
        · cases phase
          simp [Reply.messages, request, Listener.errorEnvelope, Value.get_object,
            Json.lookup_cons_eq_ite]
            at member
        · cases phase
        · cases phase
          refine ⟨value, rfl, rfl, ?_⟩
          simpa [Reply.messages, request, Listener.successEnvelope, Value.get_object]
            using member
      · rintro ⟨_, _, value, same, answered, member⟩
        obtain ⟨rfl, rfl⟩ := Prod.mk.inj (Option.some.inj same)
        rw [answered]
        refine ⟨_, rfl, ?_⟩
        simpa [Reply.messages, request, Listener.successEnvelope, Value.get_object] using member

end Replies

/-! ## Steps -/

section Steps

variable [Chrono] [SerdeJson] (net : Network)

/-- All that an event can do to the connections. -/
inductive Moves : NetworkEvent → Option (String × Env) × Network → Prop
  /-- The event is not due. -/
  | ignores (event : NetworkEvent)
      (unread : ∀ connection text env, event = .line connection text env →
        net.phases connection ≠ .reading)
      (stays : ∀ connection, event ≠ .hangup connection) (serves : event ≠ .shutdown) :
      Moves event (none, net)
  | accepts (connection : Nat) (closed : net.phases connection = .closed) :
      Moves (.accept connection) (none, net.enter connection .reading)
  | processes (connection : Nat) (text : String) (env : Env)
      (outcome : LineOutcome) (after : AppStateInner) (reading : net.phases connection = .reading)
      (pass : processLine text env net.state = (outcome, after)) :
      Moves (.line connection text env) (some (text, env),
        { net with state := after }.enter connection (outcome.phase (text, env)))
  | flushes (connection : Nat) (reply : Reply) (writing : net.phases connection = .writing reply) :
      Moves (.flush connection)
        (none, { net with written := net.written ++ [reply] }.enter connection .reading)
  | hangsUp (connection : Nat) : Moves (.hangup connection) (none, net.enter connection .closed)
  | aborts : Moves .shutdown (none, { net with phases := fun _ => .closed })

theorem network_moves (event : NetworkEvent) : Moves net event (network.step net event) := by
  cases event with
  | accept connection =>
      simp only [network]
      split
      next closed => exact .accepts connection closed
      next => exact .ignores _ (by simp) (by simp) (by simp)
  | line connection text env =>
      simp only [network]
      split
      next reading =>
        rcases pass : processLine text env net.state with ⟨outcome, after⟩
        exact .processes connection text env outcome after reading pass
      next busy =>
        refine .ignores _ (fun other _ _ same => ?_) (by simp) (by simp)
        obtain ⟨rfl, -, -⟩ := NetworkEvent.line.inj same
        exact busy
  | flush connection =>
      simp only [network]
      split
      next reply writing => exact .flushes connection reply writing
      next => exact .ignores _ (by simp) (by simp) (by simp)
  | hangup connection => exact .hangsUp connection
  | shutdown => exact .aborts

end Steps

/-! ## Runs of the daemon behind the connections -/

section Runs

variable [Chrono] [SerdeJson]

/-- The lines which a run processes, in the order in which their calls take the lock. -/
def processed (events : List NetworkEvent) : List (String × Env) :=
  (network.trace newNetwork events).filterMap Mealy.Transition.output

/-- The calls which a run dispatches, in lock order. -/
def dispatched (events : List NetworkEvent) : List Call := requestCalls (processed events)

theorem dispatched_append (front back : List NetworkEvent) :
    ∃ later, dispatched (front ++ back) = dispatched front ++ later := by
  rw [dispatched, processed, Mealy.trace_append, List.filterMap_append, requestCalls,
    List.filterMap_append]
  exact ⟨_, rfl⟩

theorem fresh_front {front back : List NetworkEvent}
    (fresh : FreshIds (dispatched (front ++ back))) : FreshIds (dispatched front) := by
  obtain ⟨later, same⟩ := dispatched_append front back
  exact Mealy.Fresh.front (same ▸ fresh)

/-- The connections do to the state what dispatching their calls one after the other does. -/
theorem network_state (events : List NetworkEvent) :
    (network.run newNetwork events).state = daemon.run newState (dispatched events) := by
  rw [dispatched, ← connection_run]
  induction events using List.reverseRecOn with
  | nil => rfl
  | append_singleton events event ih =>
      rw [Mealy.run_snoc, processed, Mealy.trace_snoc, List.filterMap_append, ← processed,
        Mealy.run_append, ← ih]
      generalize network.run newNetwork events = net
      have moves := network_moves net event
      rw [Mealy.transition]
      generalize network.step net event = result at moves
      cases moves with
      | processes _ text env outcome after _ pass =>
          change after = (connection.step net.state (text, env)).2
          rw [connection_step, pass]
      | ignores | accepts | flushes | hangsUp | aborts => rfl

theorem inboxIds_network {events : List NetworkEvent} (fresh : FreshIds (dispatched events)) :
    InboxIds ((dispatched events).map fun call => call.env.uuid)
      (network.run newNetwork events).state :=
  network_state events ▸ inboxIds_run fresh

end Runs

/-! ## Loss -/

section Loss

variable [Chrono] [SerdeJson]

/-- Every posted message is unread or was written to a client. -/
def Kept (net : Network) : Prop :=
  ∀ session, ∀ id ∈ inboxIds session net.state, UnreadIn session net.state id ∨ net.Delivered id

/-- Every posted message is unread, was written to a client, or is about to be. -/
def Tracked (net : Network) : Prop :=
  ∀ session, ∀ id ∈ inboxIds session net.state,
    UnreadIn session net.state id ∨ net.Delivered id ∨ net.InFlight id

/-- An event hands out no unread message. -/
def KeepsUnread (net : Network) : NetworkEvent → Prop
  | .line connection text env =>
      net.phases connection = .reading →
        ∀ rpcId call, requestCall (text, env) = some (rpcId, call) →
          ∀ session id, HandsOut session net.state call id → ¬UnreadIn session net.state id
  | _ => True

/-- An event ends no connection in front of the only reply with a message. -/
def SparesReplies (net : Network) : NetworkEvent → Prop
  | .hangup connection => ∀ id, net.InFlightOn connection id →
      net.Delivered id ∨ net.InFlightBeside connection id
  | .shutdown => ∀ id, net.InFlight id → net.Delivered id
  | _ => True

/-- Replies carry marked messages only. -/
def CarriesMarked (net : Network) : Prop :=
  ∀ id, net.Delivered id ∨ net.InFlight id → Marked net.state id

/-- A line changes the state by dispatching its call, if it has one. -/
theorem state_processLine {text : String} {env : Env} {state after : AppStateInner}
    {outcome : LineOutcome} (pass : processLine text env state = (outcome, after)) :
    (requestCall (text, env) = none ∧ after = state) ∨
      ∃ rpcId call, requestCall (text, env) = some (rpcId, call) ∧
        after = (daemon.step state call).2 := by
  have after_eq := congrArg Prod.snd pass.symm
  cases request : requestCall (text, env) with
  | none => exact Or.inl ⟨rfl, after_eq.trans (processLine_other env state request)⟩
  | some addressed =>
      exact Or.inr ⟨addressed.1, addressed.2, rfl,
        after_eq.trans (congrArg Prod.snd (processLine_request env state request))⟩

variable {net : Network}

/-- Handing out marks, and marks stay, so replies go on to carry marked messages only. -/
theorem carriesMarked_step {spent : List String} (ids : InboxIds spent net.state)
    (event : NetworkEvent)
    (distinct : ∀ session, (inboxIds session (network.step net event).2.state).Nodup)
    (carries : CarriesMarked net) : CarriesMarked (network.step net event).2 := by
  have moves := network_moves net event
  generalize network.step net event = result at moves distinct
  cases moves with
  | ignores => exact carries
  | accepts connection =>
      rintro id (delivered | flying)
      · exact carries id (Or.inl delivered)
      · have beside := (net.inFlight_enter_quiet connection (by simp) id).mp flying
        exact carries id (Or.inr (Network.inFlight_of_beside beside))
  | processes connection text env outcome after _ pass =>
      change ∀ session, (inboxIds session after).Nodup at distinct
      have marked_before : ∀ id, Marked net.state id → Marked after id := by
        rcases state_processLine pass with ⟨-, rfl⟩ | ⟨rpcId, call, -, rfl⟩
        · exact fun _ marked => marked
        · exact fun _ => marked_step ids distinct
      rintro id (delivered | flying)
      · exact marked_before id (carries id (Or.inl delivered))
      · rcases (Network.inFlight_enter _ connection _ id).mp flying with now | beside
        · obtain ⟨rpcId, call, value, request, answered, member⟩ :=
            (mem_messages_processLine pass).mp now
          obtain ⟨session, out⟩ :=
            (mem_carriedIds_iff (inboxIds_nodup ids)).mp ⟨value, answered, member⟩
          obtain rfl : after = (daemon.step net.state call).2 :=
            congrArg Prod.snd (pass.symm.trans (processLine_request env net.state request))
          exact marked_of_handsOut ids out
        · exact marked_before id (carries id (Or.inr (Network.inFlight_of_beside beside)))
  | flushes connection reply writing =>
      rintro id (delivered | flying)
      · rcases (net.delivered_snoc reply connection .reading id).mp delivered with earlier | now
        · exact carries id (Or.inl earlier)
        · exact carries id (Or.inr ⟨connection, reply, writing, now⟩)
      · have beside := (Network.inFlight_enter_quiet _ connection (by simp) id).mp flying
        exact carries id (Or.inr (Network.inFlight_of_beside beside))
  | hangsUp connection =>
      rintro id (delivered | flying)
      · exact carries id (Or.inl delivered)
      · have beside := (net.inFlight_enter_quiet connection (by simp) id).mp flying
        exact carries id (Or.inr (Network.inFlight_of_beside beside))
  | aborts =>
      rintro id (delivered | ⟨connection, reply, phase, -⟩)
      · exact carries id (Or.inl delivered)
      · cases phase

theorem carriesMarked_run {events : List NetworkEvent} (fresh : FreshIds (dispatched events)) :
    CarriesMarked (network.run newNetwork events) := by
  induction events using List.reverseRecOn with
  | nil => rintro id (⟨reply, member, -⟩ | ⟨connection, reply, phase, -⟩) <;> contradiction
  | append_singleton events event ih =>
      have distinct := inboxIds_nodup (inboxIds_network fresh)
      rw [Mealy.run_snoc] at distinct ⊢
      exact carriesMarked_step (inboxIds_network (fresh_front fresh)) event distinct
        (ih (fresh_front fresh))

/-- A step keeps every message unread or written exactly when it hands out no unread message. -/
theorem kept_step_iff {spent : List String} (ids : InboxIds spent net.state)
    (carries : CarriesMarked net) (event : NetworkEvent) (kept : Kept net) :
    Kept (network.step net event).2 ↔ KeepsUnread net event := by
  have moves := network_moves net event
  generalize network.step net event = result at moves
  cases moves with
  | ignores _ unread =>
      refine iff_of_true kept ?_
      cases event with
      | line connection text env =>
          exact fun reading => absurd reading (unread connection text env rfl)
      | accept | flush | hangup | shutdown => trivial
  | processes connection text env outcome after reading pass =>
      change (∀ session, ∀ id ∈ inboxIds session after,
        UnreadIn session after id ∨ net.Delivered id) ↔ _
      rcases state_processLine pass with ⟨other, rfl⟩ | ⟨rpcId, call, request, rfl⟩
      · refine iff_of_true kept fun _ rpcId call request => ?_
        rw [other] at request
        cases request
      · constructor
        · intro kept_after _ other_id other_call other session id out pending
          obtain ⟨-, rfl⟩ := Prod.mk.inj (Option.some.inj (request.symm.trans other))
          obtain ⟨place, member, read⟩ := marked_of_handsOut ids out
          rcases kept_after place id member with unread | delivered
          · exact read unread
          · exact not_marked_of_unreadIn ids pending (carries id (Or.inl delivered))
        · intro keeps session id member
          by_cases old : id ∈ inboxIds session net.state
          · refine (kept session id old).imp_left fun pending => ?_
            exact (unreadIn_step_iff ids pending).mpr fun out =>
              keeps reading rpcId call request session id out pending
          · exact Or.inl (unreadIn_of_new ids member old)
  | accepts => exact iff_of_true kept trivial
  | hangsUp => exact iff_of_true kept trivial
  | aborts => exact iff_of_true kept trivial
  | flushes connection reply =>
      refine iff_of_true (fun session id member => ?_) trivial
      exact (kept session id member).imp_right fun delivered =>
        (net.delivered_snoc reply connection .reading id).mpr (Or.inl delivered)

/-- Processing a line loses nothing yet: what is no longer unread is in flight. -/
theorem tracked_processes {spent : List String} (ids : InboxIds spent net.state)
    (tracked : Tracked net) {connection : Nat} {text : String} {env : Env} {outcome : LineOutcome}
    {after : AppStateInner} (reading : net.phases connection = .reading)
    (pass : processLine text env net.state = (outcome, after)) :
    Tracked ({ net with state := after }.enter connection (outcome.phase (text, env))) := by
  have flying_on : ∀ id, net.InFlight id →
      Network.InFlight ({ net with state := after }.enter connection (outcome.phase (text, env)))
        id := fun id flying =>
    (Network.inFlight_enter _ connection _ id).mpr
      (Or.inr (Network.beside_of_inFlight (by simp [reading]) flying))
  intro session id (member : id ∈ inboxIds session after)
  change UnreadIn session after id ∨ net.Delivered id ∨ _
  rcases state_processLine pass with ⟨-, rfl⟩ | ⟨rpcId, call, request, rfl⟩
  · exact (tracked session id member).imp_right (Or.imp_right (flying_on id))
  · by_cases old : id ∈ inboxIds session net.state
    · rcases tracked session id old with pending | kept
      · by_cases out : HandsOut session net.state call id
        · obtain ⟨value, answered, carried⟩ :=
            (mem_carriedIds_iff (inboxIds_nodup ids)).mpr ⟨session, out⟩
          have now := (mem_messages_processLine pass).mpr
            ⟨rpcId, call, value, request, answered, carried⟩
          exact Or.inr (Or.inr ((Network.inFlight_enter _ connection _ id).mpr (Or.inl now)))
        · exact Or.inl ((unreadIn_step_iff ids pending).mpr out)
      · exact Or.inr (kept.imp_right (flying_on id))
    · exact Or.inl (unreadIn_of_new ids member old)

/-- A step loses no message exactly when it ends no connection in front of its only reply. -/
theorem tracked_step_iff {spent : List String} (ids : InboxIds spent net.state)
    (carries : CarriesMarked net) (event : NetworkEvent) (tracked : Tracked net) :
    Tracked (network.step net event).2 ↔ SparesReplies net event := by
  have moves := network_moves net event
  generalize network.step net event = result at moves
  cases moves with
  | ignores _ _ stays serves =>
      refine iff_of_true tracked ?_
      cases event with
      | hangup connection => exact absurd rfl (stays connection)
      | shutdown => exact absurd rfl serves
      | accept | line | flush => trivial
  | processes connection text env outcome after reading pass =>
      exact iff_of_true (tracked_processes ids tracked reading pass) trivial
  | accepts connection closed =>
      refine iff_of_true (fun session id member => ?_) trivial
      refine (tracked session id member).imp_right (Or.imp_right fun flying => ?_)
      exact (net.inFlight_enter_quiet connection (by simp) id).mpr
        (Network.beside_of_inFlight (by simp [closed]) flying)
  | flushes connection reply writing =>
      refine iff_of_true (fun session id member => ?_) trivial
      have delivers := net.delivered_snoc reply connection .reading id
      refine (tracked session id member).imp_right ?_
      rintro (delivered | flying)
      · exact Or.inl (delivers.mpr (Or.inl delivered))
      · rcases (net.inFlight_iff connection id).mp flying with ⟨other, same, here⟩ | beside
        · obtain rfl := Phase.writing.inj (writing.symm.trans same)
          exact Or.inl (delivers.mpr (Or.inr here))
        · exact Or.inr ((Network.inFlight_enter_quiet _ connection (by simp) id).mpr beside)
  | hangsUp connection =>
      have flies : ∀ id, (net.enter connection .closed).InFlight id ↔
          net.InFlightBeside connection id := net.inFlight_enter_quiet connection (by simp)
      constructor
      · intro tracked_after id flying
        obtain ⟨session, member, read⟩ := carries id (Or.inr ⟨connection, flying⟩)
        rcases tracked_after session id member with unread | delivered | later
        · exact absurd unread read
        · exact Or.inl delivered
        · exact Or.inr ((flies id).mp later)
      · intro spares session id member
        refine (tracked session id member).imp_right ?_
        rintro (delivered | flying)
        · exact Or.inl delivered
        · rcases (net.inFlight_iff connection id).mp flying with here | beside
          · exact (spares id here).imp_right (flies id).mpr
          · exact Or.inr ((flies id).mpr beside)
  | aborts =>
      constructor
      · intro tracked_after id flying
        obtain ⟨session, member, read⟩ := carries id (Or.inr flying)
        rcases tracked_after session id member with unread | delivered | ⟨_, _, phase, -⟩
        · exact absurd unread read
        · exact delivered
        · cases phase
      · intro spares session id member
        refine (tracked session id member).imp_right fun kept => Or.inl ?_
        exact kept.elim (fun delivered => delivered) (spares id)

/-- Throughout a run every message ever posted is unread or was written to a client. -/
def NoneLost (events : List NetworkEvent) : Prop :=
  ∀ front, front <+: events → ∀ session, ∀ id ∈ postedTo session (dispatched front),
    UnreadIn session (network.run newNetwork front).state id ∨
      (network.run newNetwork front).Delivered id

/-- Throughout a run every message ever posted is unread, was written, or is being written. -/
def NoneDropped (events : List NetworkEvent) : Prop :=
  ∀ front, front <+: events → ∀ session, ∀ id ∈ postedTo session (dispatched front),
    UnreadIn session (network.run newNetwork front).state id ∨
      (network.run newNetwork front).Delivered id ∨ (network.run newNetwork front).InFlight id

theorem postedTo_network {events front : List NetworkEvent}
    (fresh : FreshIds (dispatched events)) (reached : front <+: events) (session : String) :
    postedTo session (dispatched front) =
      inboxIds session (network.run newNetwork front).state := by
  obtain ⟨back, rfl⟩ := reached
  rw [postedTo_eq (fresh_front fresh), network_state]

/-- No posted message is ever out of sight exactly when no unread message is handed out; counting
replies which are still being written, exactly when no connection ends in front of the only reply
with a message. -/
theorem message_loss {events : List NetworkEvent} (fresh : FreshIds (dispatched events)) :
    (NoneLost events ↔
      ∀ step ∈ network.trace newNetwork events, KeepsUnread step.before step.event) ∧
    (NoneDropped events ↔
      ∀ step ∈ network.trace newNetwork events, SparesReplies step.before step.event) := by
  have lost_iff : NoneLost events ↔ network.Always Kept newNetwork events :=
    forall₂_congr fun front reached => by simp only [postedTo_network fresh reached, Kept]
  have dropped_iff : NoneDropped events ↔ network.Always Tracked newNetwork events :=
    forall₂_congr fun front reached => by simp only [postedTo_network fresh reached, Tracked]
  have empty : ∀ session, inboxIds session newNetwork.state = [] := fun _ => rfl
  constructor
  · rw [lost_iff]
    refine Mealy.always_iff_guarded (fun session id member => ?_) fun step member kept => ?_
    · rw [empty] at member
      cases member
    · obtain ⟨front, event, back, rfl, rfl⟩ := Mealy.mem_trace.mp member
      have front_fresh := fresh_front fresh
      exact kept_step_iff (inboxIds_network front_fresh) (carriesMarked_run front_fresh) event kept
  · rw [dropped_iff]
    refine Mealy.always_iff_guarded (fun session id member => ?_) fun step member tracked => ?_
    · rw [empty] at member
      cases member
    · obtain ⟨front, event, back, rfl, rfl⟩ := Mealy.mem_trace.mp member
      have front_fresh := fresh_front fresh
      exact tracked_step_iff (inboxIds_network front_fresh) (carriesMarked_run front_fresh) event
        tracked

end Loss

/-! ## Lines one after the other -/

section Exchanges

/-- No connection is writing, and those from a number on are new. -/
structure Network.Rested (net : Network) (connection : Nat) : Prop where
  quiet : ∀ other reply, net.phases other ≠ .writing reply
  unused : ∀ other, connection ≤ other → net.phases other = .closed

theorem rested_newNetwork : newNetwork.Rested 0 where
  quiet := by simp [newNetwork]
  unused _ _ := rfl

variable [SerdeJson] {net : Network} {connection : Nat}

/-- Lines, each over a connection of its own which writes its reply at once. -/
def exchanges : Nat → List (String × Env) → List NetworkEvent
  | _, [] => []
  | connection, (text, env) :: lines =>
      [.accept connection, .line connection text env, .flush connection] ++
        exchanges (connection + 1) lines

theorem sparesReplies_exchanges {lines : List (String × Env)} {event : NetworkEvent}
    (member : event ∈ exchanges connection lines) : SparesReplies net event := by
  induction lines generalizing connection with
  | nil => cases member
  | cons line lines ih =>
      simp only [exchanges, List.mem_append, List.mem_cons, List.not_mem_nil, or_false] at member
      rcases member with (rfl | rfl | rfl) | later
      · trivial
      · trivial
      · trivial
      · exact ih later

variable [Chrono]

/-- Behind a flush a connection is not writing. -/
theorem Network.rested_flush (quiet : ∀ other, other ≠ connection → ∀ reply,
      net.phases other ≠ .writing reply)
    (unused : ∀ other, connection < other → net.phases other = .closed) :
    (network.step net (.flush connection)).2.Rested (connection + 1) := by
  cases phase : net.phases connection with
  | writing reply =>
      rw [Network.step_flush phase]
      constructor
      · intro other
        by_cases same : other = connection
        · rw [same, Network.enter_self]
          simp
        · rw [Network.enter_of_ne _ _ same]
          exact quiet other same
      · intro other later
        rw [Network.enter_of_ne _ _ (by omega)]
        exact unused other later
  | closed | reading =>
      rw [Network.step_flush_idle (by simp [phase])]
      refine ⟨fun other => ?_, fun other later => unused other later⟩
      by_cases same : other = connection
      · rw [same, phase]
        simp
      · exact quiet other same

/-- A line over a new connection is processed, and leaves the connections at rest. -/
theorem rested_exchange (rested : net.Rested connection) (text : String) (env : Env) :
    let events := [.accept connection, .line connection text env, .flush connection]
    (network.run net events).Rested (connection + 1) ∧
      (network.trace net events).filterMap Mealy.Transition.output = [(text, env)] := by
  have accepts := Network.step_accept (rested.unused connection le_rfl)
  have reads := Network.step_line (net.enter_self connection .reading) text env
  constructor
  · rw [Mealy.run_cons, accepts, Mealy.run_cons, reads]
    refine Network.rested_flush (fun other different => ?_) fun other later => ?_
    · rw [Network.enter_of_ne _ _ different, Network.enter_of_ne _ _ different]
      exact rested.quiet other
    · rw [Network.enter_of_ne _ _ (by omega), Network.enter_of_ne _ _ (by omega)]
      exact rested.unused other later.le
  · have silent (before : Network) : (network.step before (.flush connection)).1 = none := by
      cases phase : before.phases connection <;> simp [network, phase]
    simp [Mealy.transition, accepts, reads, silent]

/-- Lines one after the other are processed in their order. -/
theorem rested_exchanges (rested : net.Rested connection) (lines : List (String × Env)) :
    (∃ later, (network.run net (exchanges connection lines)).Rested later) ∧
      (network.trace net (exchanges connection lines)).filterMap Mealy.Transition.output =
        lines := by
  induction lines generalizing net connection with
  | nil => exact ⟨⟨connection, rested⟩, rfl⟩
  | cons line lines ih =>
      obtain ⟨after, output⟩ := rested_exchange rested line.1 line.2
      obtain ⟨resting, outputs⟩ := ih after
      rw [exchanges, Mealy.run_append, Mealy.trace_append, List.filterMap_append, output, outputs]
      exact ⟨resting, rfl⟩

end Exchanges

section Delivered

attribute [local instance] Chrono.utc compactText

/-- An agent registers, posts twice to itself and lists one message. -/
def deliveredCalls : List (MethodCall × Env) := [
  (Client.sessionRegister 7 "forge" none [], .ofSeconds 0 "a"),
  (Client.inboxPost "sess_a" "sess_a" "first" "" "normal", .ofSeconds 1 "b"),
  (Client.inboxPost "sess_a" "sess_a" "second" "" "normal", .ofSeconds 2 "c"),
  (Client.inboxList "sess_a" false 1, .ofSeconds 3 "d")]

/-- The calls as they reach the daemon, each over a connection of its own. -/
def deliveredEvents : List NetworkEvent :=
  exchanges 0 (deliveredCalls.map fun call => (requestText call.1, call.2))

theorem dispatched_deliveredEvents :
    dispatched deliveredEvents =
      deliveredCalls.map fun call => ⟨call.1.method, call.1.params, call.2⟩ := by
  rw [dispatched, processed, deliveredEvents, (rested_exchanges rested_newNetwork _).2]
  refine requestCalls_requestText (fun call member => ?_) fun call member => ?_
  · simp only [deliveredCalls, List.mem_cons, List.not_mem_nil, or_false] at member
    have flat : call.1.params.Plain 2 := by
      have none_given : (Value.array []).Plain 1 := Value.plain_array (by simp)
      rcases member with rfl | rfl | rfl | rfl <;>
        exact Value.plain_object (by simp [givenStr, none_given])
    have request : (Client.request call.1).Plain 3 := Value.plain_object (by simp [flat])
    exact request.mono (by decide)
  · have short : ∀ call ∈ deliveredCalls,
        4 * (Client.request call.1).doc.render.length ≤ maxLineBytes := by
      decide +kernel
    rw [Oversize, trim_requestText, not_lt]
    exact (utf8ByteSize_ofList_le _).trans (short call member)

theorem message_loss_deliveredEvents :
    postedTo "sess_a" (dispatched deliveredEvents) = ["msg_b", "msg_c"] ∧
      (network.run newNetwork deliveredEvents).Delivered "msg_b" ∧ NoneDropped deliveredEvents := by
  have fresh : FreshIds (dispatched deliveredEvents) := by
    rw [dispatched_deliveredEvents]
    decide
  have posted : postedTo "sess_a" (dispatched deliveredEvents) = ["msg_b", "msg_c"] := by
    rw [dispatched_deliveredEvents]
    decide +kernel
  have kept : NoneDropped deliveredEvents := by
    refine (message_loss fresh).2.mpr fun step member => ?_
    obtain ⟨front, event, back, same, rfl⟩ := Mealy.mem_trace.mp member
    exact sparesReplies_exchanges (show event ∈ deliveredEvents from same ▸ by simp)
  have read : ∀ message ∈ ((network.run newNetwork deliveredEvents).state.inbox.get
      "sess_a").getD [], message.messageId = "msg_b" → message.read = true := by
    rw [network_state, dispatched_deliveredEvents]
    decide +kernel
  obtain ⟨later, resting⟩ : ∃ later, (network.run newNetwork deliveredEvents).Rested later :=
    (rested_exchanges rested_newNetwork _).1
  refine ⟨posted, ?_, kept⟩
  rcases kept _ (List.prefix_refl _) "sess_a" "msg_b" (by simp [posted]) with
    ⟨message, member, named, unread⟩ | delivered | ⟨connection, reply, writing, -⟩
  · exact absurd (read message member named) (by simp [unread])
  · exact delivered
  · exact absurd writing (resting.quiet connection reply)

end Delivered

section Hangup

attribute [local instance] Chrono.utc compactJson

/-- An agent registers. -/
def registeringEvents : List NetworkEvent := [
  .accept 0,
  .line 0 "\x7b\"jsonrpc\":\"2.0\",\"id\":1,\"method\":\"session.register\",\"params\":\x7b\"pid\":7\x7d\x7d"
    (.ofSeconds 0 "a"),
  .flush 0]

/-- The agent posts to itself and polls, each over a connection of its own; the last one ends in
front of the reply. -/
def hangupEvents : List NetworkEvent :=
  registeringEvents ++ [
    .accept 1,
    .line 1 "\x7b\"jsonrpc\":\"2.0\",\"id\":2,\"method\":\"inbox.post\",\"params\":\x7b\"from_session\":\"sess_a\",\"to_session\":\"sess_a\"\x7d\x7d"
      (.ofSeconds 1 "b"),
    .accept 2,
    .line 2 "\x7b\"jsonrpc\":\"2.0\",\"id\":3,\"method\":\"inbox.list\",\"params\":\x7b\"session_id\":\"sess_a\"\x7d\x7d"
      (.ofSeconds 2 "c"),
    .hangup 2]

theorem not_noneLost_hangupEvents : ¬NoneLost hangupEvents := by
  have lost : "msg_b" ∈ postedTo "sess_a" (dispatched hangupEvents) ∧
      (∀ message ∈ ((network.run newNetwork hangupEvents).state.inbox.get "sess_a").getD [],
        message.messageId = "msg_b" → message.read = true) ∧
      ∀ reply ∈ (network.run newNetwork hangupEvents).written, "msg_b" ∉ reply.messages := by
    decide +kernel
  obtain ⟨posted, read, unsent⟩ := lost
  intro kept
  rcases kept _ (List.prefix_refl _) "sess_a" "msg_b" posted with
    ⟨message, member, named, unread⟩ | ⟨reply, member, carried⟩
  · exact absurd (read message member named) (by simp [unread])
  · exact unsent reply member carried

end Hangup

end TeamComm
