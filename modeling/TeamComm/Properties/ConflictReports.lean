import TeamComm.Properties.ReservationSafety

/-!
# Conflict reports

Claims are ordered by the lock, not by their clocks.  Whoever claims later in that order is told of
every earlier reservation which will still be in force at some instant of its own, and of nothing
else.
-/

namespace TeamComm

open Json (Value)

/-- Reservations stand under their own ids. -/
def ReservationsNamed (state : AppStateInner) : Prop :=
  ∀ id reservation, state.reservations.get id = some reservation → reservation.reservationId = id

/-- A listing names every reservation once. -/
theorem ReservationsNamed.listed_nodup {state : AppStateInner} (named : ReservationsNamed state)
    (order : IterOrder) (keep : Reservation → Bool) :
    (((order.arrange state.reservations.values).filter keep).map
      Reservation.reservationId).Nodup := by
  have distinct : (state.reservations.values.map Reservation.reservationId).Nodup :=
    HashMap.values_map_nodup fun found other_found same =>
      (named _ _ found).symm.trans (same.trans (named _ _ other_found))
  exact (((order.perm _).map _).nodup_iff.mpr distinct).sublist (List.filter_sublist.map _)

section Reports

variable [Chrono]

/-- A reservation is stored under its own id. -/
def Stored (state : AppStateInner) (reservation : Reservation) : Prop :=
  state.reservations.get reservation.reservationId = some reservation

/-- A claim stores a reservation and names it in its answer. -/
def Grants (step : CallStep) (reservation : Reservation) : Prop :=
  step.event.method = "reservation.claim" ∧
    (∃ reply, step.output = .ok reply ∧
      reply.get "reservation_id" = some (.string reservation.reservationId)) ∧
    Stored step.after reservation

/-- The call behind a front part of a run grants a reservation. -/
def GrantedAfter (calls front : List Call) (step : CallStep) (reservation : Reservation) : Prop :=
  ∃ call back, calls = front ++ call :: back ∧
    step = daemon.transition (daemon.run newState front) call ∧ Grants step reservation

/-! ## Where stored reservations come from -/

/-- What is stored behind a call was stored before, unless the call minted it. -/
theorem reservation_before {state : AppStateInner} {call : Call} {id : String}
    {reservation : Reservation}
    (found : (daemon.step state call).2.reservations.get id = some reservation) :
    state.reservations.get id = some reservation ∨
      id = call.env.mintReservationId ∧ reservation.reservationId = id := by
  have effect := daemon_effect call state
  generalize daemon.step state call = result at effect found
  cases effect with
  | claims claim =>
      rw [HashMap.get_insert] at found
      split at found
      next same =>
        obtain rfl := Option.some.inj found
        exact Or.inr ⟨same, same.symm⟩
      next => exact Or.inl found
  | releases =>
      obtain ⟨-, found⟩ := HashMap.get_remove_eq_some.mp found
      exact Or.inl found
  | _ => exact Or.inl found

theorem reservationsNamed_run (calls : List Call) :
    ReservationsNamed (daemon.run newState calls) := by
  refine Mealy.invariant ?_ ?_ calls
  · intro id reservation found
    simp [newState] at found
  · intro state call named id reservation found
    rcases reservation_before found with earlier | ⟨-, minted⟩
    · exact named id reservation earlier
    · exact minted

theorem reservationsMinted_run {calls : List Call} (fresh : FreshIds calls) :
    Minted Env.mintReservationId (calls.map fun call => call.env.uuid)
      (daemon.run newState calls).reservations := by
  let holds (spent : List String) (state : AppStateInner) : Prop :=
    Minted Env.mintReservationId spent state.reservations
  suffices reached : holds (calls.map fun call => call.env.uuid) (daemon.run newState calls) from
    reached
  refine Mealy.invariant_fresh Minted.empty ?_ fresh
  intro spent state call minted _ id reservation found
  rcases reservation_before found with earlier | ⟨minted_now, -⟩
  · exact minted.spend _ id reservation earlier
  · exact ⟨call.env, by simp, minted_now⟩

/-- A released id never returns: what is stored later was stored all the time since its claim. -/
theorem stored_before {front back : List Call} {reservation : Reservation}
    (other : ∀ call ∈ back, call.env.mintReservationId ≠ reservation.reservationId)
    (stored : Stored (daemon.run newState (front ++ back)) reservation) :
    Stored (daemon.run newState front) reservation := by
  induction back using List.reverseRecOn with
  | nil => simpa using stored
  | append_singleton back call ih =>
      rw [← List.append_assoc, Stored, Mealy.run_snoc] at stored
      rcases reservation_before stored with earlier | ⟨minted_now, -⟩
      · exact ih (fun call member => other call (by simp [member])) earlier
      · exact absurd minted_now.symm (other call (by simp))

/-- A granted reservation is the one the claim asks for. -/
theorem Grants.claim {state : AppStateInner} {call : Call} {reservation : Reservation}
    (grants : Grants (daemon.transition state call) reservation) :
    ∃ claim, claimOf call.env call.params = .ok claim ∧
      daemon.step state call = (.ok (claim.reply call.env state),
        { state with
          reservations := state.reservations.insert call.env.mintReservationId
            (claim.reservation call.env) }) ∧
      reservation = claim.reservation call.env := by
  obtain ⟨method, ⟨reply, answered, named⟩, stored⟩ := grants
  change call.method = "reservation.claim" at method
  change (daemon.step state call).1 = .ok reply at answered
  change Stored (daemon.step state call).2 reservation at stored
  obtain ⟨claim, parsed, registered, rfl⟩ := claim_of_answered method answered
  have step := step_claim method parsed registered
  refine ⟨claim, parsed, step, ?_⟩
  rw [Claim.reservationId_reply] at named
  have own_id : call.env.mintReservationId = reservation.reservationId :=
    Json.string.inj (Option.some.inj named)
  rw [step, Stored, ← own_id, HashMap.get_insert_self] at stored
  exact (Option.some.inj stored).symm

/-! ## Overlaps are reported -/

/-- The later of two overlapping conflicting reservations was granted with a report of the
earlier one. -/
theorem overlap_reported {calls front later : List Call} (fresh : FreshIds calls)
    {step later_step : CallStep} {held claimed : Reservation}
    (granted : GrantedAfter calls front step held)
    (granted_later : GrantedAfter calls later later_step claimed)
    (order : front.length < later.length) {seen : List Call} (reached : seen <+: calls)
    (held_stored : Stored (daemon.run newState seen) held)
    (claimed_stored : Stored (daemon.run newState seen) claimed)
    (owners : held.sessionId ≠ claimed.sessionId) (paths : (held.path == claimed.path) = true)
    (conflict : Conflicting claimed.mode held.mode) {instant : DateTime}
    (started : claimed.acquiredAt ≤ instant) (unexpired : instant < held.expiresAt) :
    ∃ reply items, later_step.output = .ok reply ∧
      reply.get "conflicts" = some (.array items) ∧ held.toValue.doc ∈ items := by
  obtain ⟨call, back, split, rfl, grants⟩ := granted
  obtain ⟨later_call, later_back, later_split, rfl, later_grants⟩ := granted_later
  obtain ⟨held_claim, -, -, rfl⟩ := grants.claim
  obtain ⟨claim, -, answer, rfl⟩ := later_grants.claim
  have call_front : front ++ [call] <+: later :=
    List.prefix_of_prefix_length_le ⟨back, by simp [split]⟩
      ⟨later_call :: later_back, later_split.symm⟩ (by simpa using Nat.succ_le_of_lt order)
  have seen_fresh : FreshIds seen := by
    obtain ⟨rest, rfl⟩ := reached
    exact Mealy.Fresh.front fresh
  -- The claimed reservation is stored only behind its claim, so `seen` reaches beyond it.
  obtain ⟨rest, rfl⟩ : later <+: seen := by
    rcases List.prefix_or_prefix_of_prefix reached
      ⟨later_call :: later_back, later_split.symm⟩ with short | long
    · obtain ⟨env, spent, same⟩ := reservationsMinted_run seen_fresh _ _ claimed_stored
      rw [later_split] at fresh
      refine absurd ?_ (Mealy.Fresh.not_mem fresh)
      rw [show later_call.env.uuid = env.uuid from Env.mintReservationId_inj.mp same]
      exact (short.map _).subset spent
    · exact long
  have held_before : Stored (daemon.run newState later) (held_claim.reservation call.env) := by
    refine stored_before ?_ held_stored
    intro other member same
    have spent : call ∈ later := call_front.subset (by simp)
    exact seen_fresh.ne (List.mem_map_of_mem spent) member (Env.mintReservationId_inj.mp same)
  have listed := Claim.mem_conflicts.mpr ⟨⟨_, held_before⟩,
    Lease.blocks_of_outlives ⟨owners.symm, (PathBuf.beq_iff.mp paths).symm, conflict⟩ started
      unexpired⟩
  refine ⟨_, _, congrArg Prod.fst answer, claim.conflicts_reply _ _, ?_⟩
  exact List.mem_map_of_mem (List.mem_map_of_mem listed)

/-- A report lists stored, unexpired, conflicting reservations of other sessions, each once. -/
theorem reported_conflicts {calls : List Call} {step : CallStep}
    (member : step ∈ daemon.trace newState calls) (method : step.event.method = "reservation.claim")
    {reply : Value} {items : List Json} (answered : step.output = .ok reply)
    (reported : reply.get "conflicts" = some (.array items)) :
    ∃ (claim : Claim) (listed : List Reservation),
      claimOf step.event.env step.event.params = .ok claim ∧
      items = listed.map (fun reservation => reservation.toValue.doc) ∧
      (listed.map Reservation.reservationId).Nodup ∧
      ∀ reservation ∈ listed, Stored step.before reservation ∧
        step.event.env.now < reservation.expiresAt ∧ reservation.sessionId ≠ claim.sessionId ∧
        (reservation.path == claim.path) = true ∧
        modeConflicts claim.mode reservation.mode = true := by
  obtain ⟨front, call, back, rfl, rfl⟩ := Mealy.mem_trace.mp member
  have named := reservationsNamed_run front
  obtain ⟨claim, parsed, -, rfl⟩ := claim_of_answered method answered
  refine ⟨claim, claim.conflicts call.env (daemon.run newState front), parsed, ?_, ?_, ?_⟩
  · change (claim.reply call.env (daemon.run newState front)).get "conflicts" = _ at reported
    rw [Claim.conflicts_reply] at reported
    simpa [Value.array, Function.comp_def] using (Option.some.inj reported).symm
  · exact named.listed_nodup call.env.order _
  · intro reservation listed
    obtain ⟨arranged, blocks⟩ := List.mem_filter.mp listed
    obtain ⟨id, found⟩ := HashMap.mem_values.mp (IterOrder.mem_arrange.mp arranged)
    simp only [blocksClaim, Bool.and_eq_true, bne_iff_ne, decide_eq_true_eq] at blocks
    refine ⟨?_, blocks.1.2, blocks.1.1.2, blocks.1.1.1, blocks.2⟩
    rw [Stored, named id reservation found]
    exact found

/-- Claims report exactly what they conflict with: every earlier reservation of another session
which is still in force at an instant of the claimed one, and only unexpired ones. -/
theorem claim_reports_conflicts {calls : List Call} (fresh : FreshIds calls) :
    (∀ front later step later_step held claimed seen instant,
      GrantedAfter calls front step held → GrantedAfter calls later later_step claimed →
      front.length < later.length → seen <+: calls →
      Stored (daemon.run newState seen) held → Stored (daemon.run newState seen) claimed →
      held.sessionId ≠ claimed.sessionId → (held.path == claimed.path) = true →
      modeConflicts held.mode claimed.mode = true ∨ modeConflicts claimed.mode held.mode = true →
      claimed.acquiredAt ≤ instant → instant < held.expiresAt ∧ instant < claimed.expiresAt →
      ∃ reply items, later_step.output = .ok reply ∧
        reply.get "conflicts" = some (.array items) ∧ held.toValue.doc ∈ items) ∧
    (∀ step ∈ daemon.trace newState calls, step.event.method = "reservation.claim" →
      ∀ reply items, step.output = .ok reply → reply.get "conflicts" = some (.array items) →
      ∃ (claim : Claim) (listed : List Reservation),
        claimOf step.event.env step.event.params = .ok claim ∧
        items = listed.map (fun reservation => reservation.toValue.doc) ∧
        (listed.map Reservation.reservationId).Nodup ∧
        ∀ reservation ∈ listed, Stored step.before reservation ∧
          step.event.env.now < reservation.expiresAt ∧ reservation.sessionId ≠ claim.sessionId ∧
          (reservation.path == claim.path) = true ∧
          modeConflicts claim.mode reservation.mode = true) := by
  constructor
  · intro front later step later_step held claimed seen instant granted granted_later order reached
      held_stored claimed_stored owners paths conflict started unexpired
    have claimed_conflict : Conflicting claimed.mode held.mode :=
      conflict.elim Conflicting.symm id
    exact overlap_reported fresh granted granted_later order reached held_stored claimed_stored
      owners paths claimed_conflict started unexpired.1
  · exact fun step member method reply items => reported_conflicts member method

end Reports

section Contested

attribute [local instance] Chrono.utc

/-- The reservations of the contested file. -/
def contestedReservation (id sessionId : String) (second : Fin 100) : Reservation where
  reservationId := id
  sessionId := sessionId
  path := ⟨"/src/lib.rs"⟩
  mode := .write
  acquiredAt := .ofSeconds second (by omega)
  expiresAt := .ofSeconds (second + 600) (by omega)

theorem claim_reports_conflicts_contestingCalls :
    ∃ reply items,
      (daemon.step (daemon.run newState (contestingCalls.take 3)) contestingCalls[3]).1 =
        .ok reply ∧
      reply.get "conflicts" = some (.array items) ∧
      (contestedReservation "resv_c" "sess_a" 2).toValue.doc ∈ items :=
  (claim_reports_conflicts (show FreshIds contestingCalls by decide)).1 (contestingCalls.take 2)
    (contestingCalls.take 3) _ _ (contestedReservation "resv_c" "sess_a" 2)
    (contestedReservation "resv_d" "sess_b" 3) contestingCalls (.ofSeconds 3 (by decide))
    ⟨_, _, rfl, rfl, rfl, ⟨_, rfl, rfl⟩, rfl⟩ ⟨_, _, rfl, rfl, rfl, ⟨_, rfl, rfl⟩, rfl⟩ (by decide)
    (List.prefix_refl _) rfl rfl (by decide) (by decide) (Or.inl rfl) (by decide)
    (by decide)

end Contested

end TeamComm
