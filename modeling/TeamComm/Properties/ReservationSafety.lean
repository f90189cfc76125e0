import TeamComm.Daemon.Effect
import TeamComm.Library.Lease

/-!
# Safety of reservations

Reservations are leases of paths.  The scan of `reservation.claim` finds every lease that can ever
overlap the claimed one, so a claimer is always told of what it conflicts with; but the claim is
stored all the same, so reservations exclude each other only in runs where no claim finds a
conflict.
-/

namespace TeamComm

open Json (Value)

/-! ## Reservations as leases -/

/-- Modes which exclude each other. -/
def Conflicting (left right : ReservationMode) : Prop := modeConflicts left right = true

theorem Conflicting.symm {left right : ReservationMode} (conflict : Conflicting left right) :
    Conflicting right left := by
  rw [Conflicting, modeConflicts_comm]
  exact conflict

/-- A reservation is a lease of the components of its path. -/
def Reservation.toLease (reservation : Reservation) :
    Lease String (List Component) ReservationMode DateTime where
  holder := reservation.sessionId
  resource := reservation.path.components
  mode := reservation.mode
  acquired := reservation.acquiredAt
  expires := reservation.expiresAt

/-- The leases in force or expired which a state stores. -/
def leases (state : AppStateInner) : Set (Lease String (List Component) ReservationMode DateTime) :=
  {lease | ∃ id reservation, state.reservations.get id = some reservation ∧
    reservation.toLease = lease}

/-- The scan of a claim finds the leases which block it. -/
theorem blocksClaim_iff {claim : Claim} {env : Env} {existing : Reservation} :
    blocksClaim env.now claim.sessionId claim.path claim.mode existing = true ↔
      Lease.Blocks Conflicting existing.toLease (claim.reservation env).toLease := by
  simp only [blocksClaim, Bool.and_eq_true, PathBuf.beq_iff, bne_iff_ne, decide_eq_true_eq,
    Lease.Blocks, Lease.Clash, Conflicting, Reservation.toLease, Claim.reservation]
  constructor
  · rintro ⟨⟨⟨path, owner⟩, unexpired⟩, conflict⟩
    exact ⟨⟨owner.symm, path.symm, conflict⟩, unexpired⟩
  · rintro ⟨⟨owner, path, conflict⟩, unexpired⟩
    exact ⟨⟨⟨path.symm, owner.symm⟩, unexpired⟩, conflict⟩

theorem Claim.mem_conflicts {claim : Claim} {env : Env} {state : AppStateInner}
    {existing : Reservation} :
    existing ∈ claim.conflicts env state ↔
      (∃ id, state.reservations.get id = some existing) ∧
        Lease.Blocks Conflicting existing.toLease (claim.reservation env).toLease := by
  rw [Claim.conflicts, List.mem_filter, IterOrder.mem_arrange, HashMap.mem_values, blocksClaim_iff]

/-! ## Mutual exclusion -/

/-- No two reservations of different sessions on one path, both unexpired at one instant, have
conflicting modes. -/
def MutuallyExclusive (state : AppStateInner) : Prop :=
  ∀ id other left right, state.reservations.get id = some left →
    state.reservations.get other = some right → left.sessionId ≠ right.sessionId →
    (left.path == right.path) = true → modeConflicts left.mode right.mode = true → ∀ instant,
    ¬((left.acquiredAt ≤ instant ∧ instant < left.expiresAt) ∧
      (right.acquiredAt ≤ instant ∧ instant < right.expiresAt))

theorem mutuallyExclusive_iff {state : AppStateInner} :
    MutuallyExclusive state ↔ Lease.Exclusive Conflicting (leases state) := by
  constructor
  · rintro exclusive _ ⟨id, left, found, rfl⟩ _ ⟨other, right, other_found, rfl⟩ clash
    exact exclusive id other left right found other_found clash.1 (PathBuf.beq_iff.mpr clash.2.1)
      clash.2.2
  · intro exclusive id other left right found other_found owner path conflict
    exact exclusive left.toLease ⟨id, left, found, rfl⟩ right.toLease
      ⟨other, right, other_found, rfl⟩ ⟨owner, PathBuf.beq_iff.mp path, conflict⟩

section Steps

variable [Chrono]

/-- The claim of a registered session finds no reservation in its way. -/
def Unblocked (state : AppStateInner) (call : Call) : Prop :=
  call.method = "reservation.claim" → ∀ claim, claimOf call.env call.params = .ok claim →
    state.sessions.containsKey claim.sessionId = true →
    ∀ id existing, state.reservations.get id = some existing →
      blocksClaim call.env.now claim.sessionId claim.path claim.mode existing = false

/-- A claim whose answer lists conflicts leaves no reservation behind. -/
def Refuses (step : CallStep) : Prop :=
  step.event.method = "reservation.claim" → ∀ reply conflicts id, step.output = .ok reply →
    reply.get "conflicts" = some conflicts → conflicts ≠ .array [] →
    reply.get "reservation_id" = some (.string id) → step.after.reservations.get id = none

/-- Claims which conflict are refused, and reservations exclude each other in every reached
state. -/
def ExclusiveClaims (calls : List Call) : Prop :=
  daemon.Always MutuallyExclusive newState calls ∧
    ∀ step ∈ daemon.trace newState calls, Refuses step

/-- The leases behind a call were there before, but for the one it claims. -/
theorem leases_step {state : AppStateInner} {call : Call} :
    leases (daemon.step state call).2 ⊆ leases state ∨
      ∃ claim, call.method = "reservation.claim" ∧ claimOf call.env call.params = .ok claim ∧
        state.sessions.containsKey claim.sessionId = true ∧
        leases (daemon.step state call).2 ⊆
          insert (claim.reservation call.env).toLease (leases state) := by
  have effect := daemon_effect call state
  generalize daemon.step state call = result at effect
  cases effect with
  | claims claim method parsed registered =>
      refine Or.inr ⟨claim, method, parsed, registered, ?_⟩
      rintro _ ⟨id, reservation, found, rfl⟩
      rw [HashMap.get_insert] at found
      split at found
      next => exact Or.inl (by rw [Option.some.inj found])
      next => exact Or.inr ⟨id, reservation, found, rfl⟩
  | releases id =>
      refine Or.inl ?_
      rintro _ ⟨other, reservation, found, rfl⟩
      obtain ⟨-, found⟩ := HashMap.get_remove_eq_some.mp found
      exact ⟨other, reservation, found, rfl⟩
  | _ => exact Or.inl fun _ member => member

theorem mutuallyExclusive_step {state : AppStateInner} (exclusive : MutuallyExclusive state)
    {call : Call} (unblocked : Unblocked state call) :
    MutuallyExclusive (daemon.step state call).2 := by
  rw [mutuallyExclusive_iff] at exclusive ⊢
  rcases leases_step with fewer | ⟨claim, method, parsed, registered, fewer⟩
  · exact exclusive.mono fewer
  · refine (exclusive.insert (fun conflict => conflict.symm) ?_).mono fewer
    rintro _ ⟨id, existing, found, rfl⟩ blocks
    have free := unblocked method claim parsed registered id existing found
    rw [blocksClaim_iff.mpr blocks] at free
    cases free

/-- A claim is refused as documented exactly when there is nothing to refuse. -/
theorem refuses_iff {state : AppStateInner} {call : Call} :
    Refuses (daemon.transition state call) ↔ Unblocked state call := by
  constructor
  · intro refuses method claim parsed registered id existing found
    by_contra blocked
    rw [Bool.not_eq_false, blocksClaim_iff] at blocked
    have listed : existing ∈ claim.conflicts call.env state :=
      Claim.mem_conflicts.mpr ⟨⟨id, found⟩, blocked⟩
    have step := step_claim method parsed registered
    have refused := refuses method (claim.reply call.env state) _ call.env.mintReservationId
      (congrArg Prod.fst step) (claim.conflicts_reply call.env state) ?_
      (claim.reservationId_reply call.env state)
    · change (daemon.step state call).2.reservations.get _ = none at refused
      rw [step, HashMap.get_insert_self] at refused
      cases refused
    · intro empty
      have none_listed : claim.conflicts call.env state = [] := by
        simpa [Value.array] using empty
      rw [none_listed] at listed
      cases listed
  · intro unblocked method reply conflicts id answered reported nonempty named
    obtain ⟨claim, parsed, registered, rfl⟩ := claim_of_answered method answered
    have none_listed : claim.conflicts call.env state = [] := by
      rw [List.eq_nil_iff_forall_not_mem]
      intro existing member
      obtain ⟨⟨key, found⟩, blocks⟩ := Claim.mem_conflicts.mp member
      have free := unblocked method claim parsed registered key existing found
      rw [blocksClaim_iff.mpr blocks] at free
      cases free
    change (claim.reply call.env state).get "conflicts" = some conflicts at reported
    rw [Claim.conflicts_reply, none_listed] at reported
    exact absurd (Option.some.inj reported).symm nonempty

/-- Reservations exclude each other, and conflicting claims are refused, exactly in the runs in
which no claim of a registered session finds a conflict. -/
theorem exclusiveClaims_iff {calls : List Call} :
    ExclusiveClaims calls ↔
      ∀ step ∈ daemon.trace newState calls, Unblocked step.before step.event := by
  have refuses_iff_of_mem : ∀ step ∈ daemon.trace newState calls,
      Refuses step ↔ Unblocked step.before step.event := by
    intro step member
    obtain ⟨front, call, back, rfl, rfl⟩ := Mealy.mem_trace.mp member
    exact refuses_iff
  constructor
  · exact fun exclusive step member => (refuses_iff_of_mem step member).mp (exclusive.2 step member)
  · intro unblocked
    refine ⟨?_, fun step member => (refuses_iff_of_mem step member).mpr (unblocked step member)⟩
    refine Mealy.always_of_guarded ?_ (fun _ _ before free => mutuallyExclusive_step before free)
      unblocked
    intro id other left right found
    simp [newState] at found

end Steps

section Contested

attribute [local instance] Chrono.utc

/-- Two agents claim one file for writing, a second apart. -/
def contestingCalls : List Call := [
  ⟨"session.register", .object [("pid", .u64 1)], .ofSeconds 0 "a"⟩,
  ⟨"session.register", .object [("pid", .u64 2)], .ofSeconds 1 "b"⟩,
  ⟨"reservation.claim", .object [("session_id", .string "sess_a"), ("path", .string "/src/lib.rs")],
    .ofSeconds 2 "c"⟩,
  ⟨"reservation.claim", .object [("session_id", .string "sess_b"), ("path", .string "/src/lib.rs")],
    .ofSeconds 3 "d"⟩]

theorem not_exclusiveClaims_contestingCalls : ¬ExclusiveClaims contestingCalls := by
  intro exclusive
  have never := exclusive.1 contestingCalls (List.prefix_refl _) "resv_c" "resv_d"
    ⟨"resv_c", "sess_a", ⟨"/src/lib.rs"⟩, .write, .ofSeconds 2 (by decide), .ofSeconds 602 (by decide)⟩
    ⟨"resv_d", "sess_b", ⟨"/src/lib.rs"⟩, .write, .ofSeconds 3 (by decide), .ofSeconds 603 (by decide)⟩
    rfl rfl (by decide) (by decide) (by decide) (.ofSeconds 3 (by decide))
  revert never
  decide

end Contested

end TeamComm
