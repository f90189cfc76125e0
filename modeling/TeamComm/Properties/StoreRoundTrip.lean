import TeamComm.Daemon.DbListings
import TeamComm.Properties.ClaimExpiry

/-!
# Reading back what the store was given

A session or a reservation is stored as texts, and reading its row is supposed to give it back.
Everything but an instant is read back whatever it is.  An instant outside the years `0` to `9999`
is written behind a sign and refused by the reader, so a lease which ends behind them makes every
later listing of the reservations fail.
-/

namespace TeamComm

open Transactions

/-- The year of an instant lies in `0` to `9999`. -/
def DateTime.FourDigitYear (instant : DateTime) : Prop := instant.timestamp.FourDigitYear

instance (instant : DateTime) : Decidable instant.FourDigitYear :=
  inferInstanceAs (Decidable instant.timestamp.FourDigitYear)

namespace Rfc3339

/-- What `chrono` documents about its texts. -/
structure Documented [Rfc3339] : Prop where
  /-- A year outside `0` to `9999` is written behind its sign. -/
  signed : ∀ instant : DateTime, ¬instant.FourDigitYear →
    ∃ sign rest, (sign = '+' ∨ sign = '-') ∧ (toRfc3339 instant).toList = sign :: rest
  /-- What is read starts with a year of four digits. -/
  digits : ∀ (text : String) (instant : DateTime), parseFromRfc3339 text = .ok instant →
    ∃ year rest, FixedWidth.AllDigits year ∧ year.length = 4 ∧ text.toList = year ++ rest
  /-- An instant of a four-digit year is preserved with its fraction of a second. -/
  preserved : ∀ instant : DateTime, instant.FourDigitYear → RoundTrips instant

theorem documented_utc : @Documented utc :=
  @Documented.mk utc (fun _ years => utc_signed years) (fun _ _ parsed => utc_digits parsed)
    fun _ years => utc_roundTrips years

variable [Rfc3339]

/-- The text of an instant is read at all exactly in a four-digit year. -/
theorem Documented.parsed_iff (documented : Documented) {instant : DateTime} :
    (∃ other, parseFromRfc3339 (toRfc3339 instant) = .ok other) ↔ instant.FourDigitYear := by
  refine ⟨fun ⟨other, parsed⟩ => ?_, fun years => ⟨instant, documented.preserved instant years⟩⟩
  by_contra outside
  obtain ⟨sign, rest, sign_eq, signed⟩ := documented.signed instant outside
  obtain ⟨year, behind, all, length, starts⟩ := documented.digits _ _ parsed
  cases year with
  | nil => cases length
  | cons char year =>
      have same : char = sign := (List.cons.inj (starts.symm.trans signed)).1
      have digit := all char List.mem_cons_self
      rcases sign_eq with rfl | rfl <;> rw [same] at digit <;> revert digit <;> decide

end Rfc3339

/-- Both instants of a session lie in four-digit years. -/
structure Session.FourDigitYears (session : Session) : Prop where
  started : session.startedAt.FourDigitYear
  beat : session.lastHeartbeat.FourDigitYear

/-- Both instants of a reservation lie in four-digit years. -/
structure Reservation.FourDigitYears (reservation : Reservation) : Prop where
  acquired : reservation.acquiredAt.FourDigitYear
  expires : reservation.expiresAt.FourDigitYear

section RoundTrip

variable [Rfc3339]

/-- `upsert_session` succeeds, and `get_session` then returns the session. -/
def SessionReturns (tables : Tables) (session : Session) : Prop :=
  ∃ after, (upsertSession session).exec ⟨tables, none⟩ = (.ok ⟨⟩, ⟨after, none⟩) ∧
    after.ask (getSession session.sessionId) = .ok (some session)

/-- `upsert_reservation` succeeds, and `list_reservations` then succeeds with the reservation among
the others. -/
def ReservationReturns (order : IterOrder) (tables : Tables) (reservation : Reservation) : Prop :=
  ∃ after, (upsertReservation reservation).exec ⟨tables, none⟩ = (.ok ⟨⟩, ⟨after, none⟩) ∧
    ∃ listed, after.ask (listReservations order) = .ok listed ∧ reservation ∈ listed

/-- A reservation is stored. -/
def Tables.Holds (tables : Tables) (reservation : Reservation) : Prop :=
  tables.reservations.get reservation.reservationId = some (reservationRow reservation)

/-! ## Sessions -/

theorem parseRfc3339_eq_ok {text context : String} {instant : DateTime} :
    parseRfc3339 text context = .ok instant ↔ Rfc3339.parseFromRfc3339 text = .ok instant := by
  unfold parseRfc3339
  cases Rfc3339.parseFromRfc3339 text <;> simp

/-- A stored session reads back as itself exactly in four-digit years. -/
theorem rowToSession_iff (documented : Rfc3339.Documented) {session : Session} :
    rowToSession session.sessionId (sessionRow session) = .ok session ↔ session.FourDigitYears := by
  constructor
  · intro decoded
    obtain ⟨startedAt, started, decoded⟩ := exists_of_bind decoded
    obtain ⟨capabilities, -, decoded⟩ := exists_of_bind decoded
    obtain ⟨lastHeartbeat, beat, -⟩ := exists_of_bind decoded
    exact ⟨documented.parsed_iff.mp ⟨_, parseRfc3339_eq_ok.mp started⟩,
      documented.parsed_iff.mp ⟨_, parseRfc3339_eq_ok.mp beat⟩⟩
  · exact fun years => rowToSession_of_roundTrips (documented.preserved _ years.started)
      (documented.preserved _ years.beat)

theorem sessionReturns_iff_years (documented : Rfc3339.Documented) (tables : Tables)
    (session : Session) : SessionReturns tables session ↔ session.FourDigitYears := by
  rw [← rowToSession_iff documented]
  constructor
  · rintro ⟨after, stored, asked⟩
    rw [exec_upsertSession] at stored
    cases stored
    rw [getSession, Tables.ask_query, Table.read_eq_some] at asked
    obtain ⟨row, found, decoded⟩ := asked
    rw [HashMap.get_insert_self] at found
    cases found
    exact decoded
  · intro decoded
    refine ⟨_, exec_upsertSession session tables, ?_⟩
    rw [getSession, Tables.ask_query, Table.read_eq_some]
    exact ⟨_, HashMap.get_insert_self _ _ _, decoded⟩

/-! ## Reservations -/

/-- The row of a reservation is read at all exactly in four-digit years. -/
theorem rowToReservation_iff (documented : Rfc3339.Documented) {reservation : Reservation} :
    (∃ other, rowToReservation reservation.reservationId (reservationRow reservation) = .ok other) ↔
      reservation.FourDigitYears := by
  constructor
  · rintro ⟨other, decoded⟩
    obtain ⟨mode, -, decoded⟩ := exists_of_bind decoded
    obtain ⟨acquiredAt, acquired, decoded⟩ := exists_of_bind decoded
    obtain ⟨expiresAt, expires, -⟩ := exists_of_bind decoded
    exact ⟨documented.parsed_iff.mp ⟨_, parseRfc3339_eq_ok.mp acquired⟩,
      documented.parsed_iff.mp ⟨_, parseRfc3339_eq_ok.mp expires⟩⟩
  · exact fun years => ⟨reservation, rowToReservation_of_roundTrips
      (documented.preserved _ years.acquired) (documented.preserved _ years.expires)⟩

/-- The reservations are listed exactly when every row of them decodes. -/
theorem listed_iff {tables : Tables} {order : IterOrder} :
    (∃ listed, tables.ask (listReservations order) = .ok listed) ↔
      ∀ id row, tables.reservations.get id = some row →
        ∃ other, rowToReservation id row = .ok other := by
  simp only [listReservations, Tables.ask_query]
  rw [Table.exists_list]
  constructor
  · exact fun decodes id row found =>
      decodes ⟨id, row⟩ (IterOrder.mem_arrange.mpr (HashMap.mem_entries.mpr found))
  · exact fun decodes entry member =>
      decodes entry.1 entry.2 (HashMap.mem_entries.mp (IterOrder.mem_arrange.mp member))

theorem mem_listed {tables : Tables} {order : IterOrder} {listed : List Reservation}
    (asked : tables.ask (listReservations order) = .ok listed) {id : String} {row : ReservationRow}
    (found : tables.reservations.get id = some row) {reservation : Reservation}
    (decoded : rowToReservation id row = .ok reservation) : reservation ∈ listed := by
  rw [listReservations, Tables.ask_query] at asked
  exact (Table.mem_list asked).mpr
    ⟨⟨id, row⟩, IterOrder.mem_arrange.mpr (HashMap.mem_entries.mpr found), decoded⟩

theorem exec_upsertReservation {tables : Tables} {reservation : Reservation}
    (registered : tables.sessions.containsKey reservation.sessionId = true) :
    (upsertReservation reservation).exec ⟨tables, none⟩ = (.ok ⟨⟩, ⟨{ tables with
      reservations :=
        tables.reservations.insert reservation.reservationId (reservationRow reservation) },
      none⟩) := by
  have here : tables.sessions.containsKey (reservationRow reservation).sessionId = true :=
    registered
  rw [upsertReservation, Work.exec_execute_none, Tables.insertReservation,
    Tables.referencesSession, if_pos here]

/-- Each row of a table is the row of a reservation with its id. -/
def ReservationRows (tables : Tables) : Prop :=
  ∀ id row, tables.reservations.get id = some row →
    ∃ reservation : Reservation, reservation.reservationId = id ∧ reservationRow reservation = row

/-- A row of a table is the row of a reservation which the table holds. -/
theorem ReservationRows.holds {tables : Tables} (rows : ReservationRows tables) {id : String}
    {row : ReservationRow} (found : tables.reservations.get id = some row) :
    ∃ reservation, tables.Holds reservation ∧ reservation.reservationId = id ∧
      reservationRow reservation = row := by
  obtain ⟨reservation, rfl, rfl⟩ := rows id row found
  exact ⟨reservation, found, rfl, rfl⟩

theorem reservationRows_step [StatusText] {tables : Tables} (rows : ReservationRows tables)
    (write : StoreWrite) : ReservationRows (sqliteStore.step tables write).2 := by
  cases write with
  | upsertSession session =>
      rw [step_upsertSession]
      exact rows
  | deleteSession sessionId =>
      cases held : tables.sessions.get sessionId with
      | none =>
          rw [step_deleteSession_missing held]
          exact rows
      | some session =>
          rw [step_deleteSession held]
          exact fun id row found => rows id row (HashMap.get_retain_eq_some.mp found).1
  | upsertReservation reservation =>
      rw [step_upsertReservation]
      split
      next =>
        intro id row found
        dsimp only at found
        rw [HashMap.get_insert] at found
        split at found
        next same => exact ⟨reservation, same.symm, Option.some.inj found⟩
        next => exact rows id row found
      next => exact rows
  | deleteReservation reservationId =>
      rw [step_deleteReservation]
      exact fun id row found => rows id row (HashMap.get_remove_eq_some.mp found).2
  | upsertLiveState live =>
      rw [step_upsertLiveState]
      split <;> exact rows

theorem reservationRows_run [StatusText] (writes : List StoreWrite) :
    ReservationRows (sqliteStore.run Tables.fresh writes) := by
  have fresh : ReservationRows Tables.fresh := fun _ _ found => by cases found
  exact Mealy.invariant fresh (fun _ write rows => reservationRows_step rows write) writes

theorem listed_iff_years (documented : Rfc3339.Documented) {tables : Tables}
    (rows : ReservationRows tables) (order : IterOrder) :
    (∃ listed, tables.ask (listReservations order) = .ok listed) ↔
      ∀ reservation, tables.Holds reservation → reservation.FourDigitYears := by
  rw [listed_iff]
  constructor
  · exact fun decodes reservation held =>
      (rowToReservation_iff documented).mp (decodes _ _ held)
  · intro years id row found
    obtain ⟨reservation, held, rfl, rfl⟩ := rows.holds found
    exact (rowToReservation_iff documented).mpr (years reservation held)

theorem reservationReturns_iff_years (documented : Rfc3339.Documented) {tables : Tables}
    (rows : ReservationRows tables) (order : IterOrder) {reservation : Reservation}
    (registered : tables.sessions.containsKey reservation.sessionId = true) :
    ReservationReturns order tables reservation ↔ reservation.FourDigitYears ∧
      ∀ other, tables.Holds other → other.reservationId ≠ reservation.reservationId →
        other.FourDigitYears := by
  have performed := exec_upsertReservation registered
  constructor
  · rintro ⟨after, stored, listed, asked, -⟩
    rw [performed] at stored
    cases stored
    have decodes := listed_iff.mp ⟨listed, asked⟩
    refine ⟨(rowToReservation_iff documented).mp (decodes _ _ (HashMap.get_insert_self _ _ _)), ?_⟩
    intro other held different
    exact (rowToReservation_iff documented).mp
      (decodes _ _ ((HashMap.get_insert_of_ne _ _ different).trans held))
  · rintro ⟨years, others⟩
    refine ⟨_, performed, ?_⟩
    obtain ⟨listed, asked⟩ : ∃ listed, Tables.ask { tables with
        reservations :=
          tables.reservations.insert reservation.reservationId (reservationRow reservation) }
        (listReservations order) = .ok listed := by
      refine listed_iff.mpr fun id row found => ?_
      dsimp only at found
      rw [HashMap.get_insert] at found
      split at found
      next same =>
        cases found
        rw [same]
        exact (rowToReservation_iff documented).mpr years
      next different =>
        obtain ⟨other, held, rfl, rfl⟩ := rows.holds found
        exact (rowToReservation_iff documented).mpr (others other held different)
    exact ⟨listed, asked, mem_listed asked (HashMap.get_insert_self _ _ _)
      (rowToReservation_of_roundTrips (documented.preserved _ years.acquired)
        (documented.preserved _ years.expires))⟩

/-- After every run of the store a session is returned as it was given exactly when its instants
lie in four-digit years, a reservation of a stored session exactly when also those of all others
do, and the reservations can be listed exactly when those of all stored ones do. -/
theorem storeRoundTrip_iff [StatusText] (documented : Rfc3339.Documented)
    (writes : List StoreWrite) :
    (∀ session, SessionReturns (sqliteStore.run Tables.fresh writes) session ↔
      session.FourDigitYears) ∧
    (∀ order reservation,
      (sqliteStore.run Tables.fresh writes).sessions.containsKey reservation.sessionId = true →
      (ReservationReturns order (sqliteStore.run Tables.fresh writes) reservation ↔
        reservation.FourDigitYears ∧
        ∀ other, (sqliteStore.run Tables.fresh writes).Holds other →
          other.reservationId ≠ reservation.reservationId → other.FourDigitYears)) ∧
    ∀ order, (∃ listed, (sqliteStore.run Tables.fresh writes).ask (listReservations order) =
        .ok listed) ↔
      ∀ reservation, (sqliteStore.run Tables.fresh writes).Holds reservation →
        reservation.FourDigitYears := by
  have rows := reservationRows_run writes
  exact ⟨fun session => sessionReturns_iff_years documented _ session,
    fun order _ registered => reservationReturns_iff_years documented rows order registered,
    fun order => listed_iff_years documented rows order⟩

end RoundTrip

/-! ## A lease which ends behind the year 9999 -/

section Overlong

attribute [local instance] Chrono.utc Rfc3339.utc StatusText.snakeCase

/-- The agent is stored as it has registered. -/
def agentWrites : List StoreWrite := [.upsertSession {
  sessionId := "sess_a"
  agentType := .forge
  pid := 1
  startedAt := (Env.ofSeconds 0 "a").now
  workingDir := ⟨"/"⟩
  capabilities := []
  lastHeartbeat := (Env.ofSeconds 0 "a").now }]

/-- What the agent is granted for an hour. -/
def hourLease : Reservation where
  reservationId := "resv_b"
  sessionId := "sess_a"
  path := ⟨"/src/lib.rs"⟩
  mode := .write
  acquiredAt := (Env.ofSeconds 10 "b").now
  expiresAt := (Env.ofSeconds 3610 "b").now

/-- What the agent is granted for some ten thousand years. -/
def overlongLease : Reservation :=
  { hourLease with expiresAt := (Env.ofSeconds 300000000010 "b").now }

theorem storeRoundTrip_iff_hour :
    ReservationReturns .stored (sqliteStore.run Tables.fresh agentWrites) hourLease := by
  refine ((storeRoundTrip_iff Rfc3339.documented_utc agentWrites).2.1 .stored hourLease rfl).mpr
    ⟨⟨?_, ?_⟩, fun other held _ => ?_⟩
  · decide +kernel
  · decide +kernel
  · cases held

/-- A lease of three hundred thousand million seconds makes the listing fail. -/
theorem not_storeRoundTrip_overlong :
    ¬∀ calls : List Call, FreshIds calls → ∀ id reservation,
      (daemon.run newState calls).reservations.get id = some reservation →
      ∀ (order : IterOrder) (writes : List StoreWrite),
        (sqliteStore.run Tables.fresh writes).sessions.containsKey reservation.sessionId = true →
        ReservationReturns order (sqliteStore.run Tables.fresh writes) reservation := by
  intro returns
  have granted : (daemon.run newState (oneAgent ++ [claimFor 300000000000])).reservations.get
      "resv_b" = some overlongLease := rfl
  have returned := returns _ (by decide) "resv_b" overlongLease granted .stored agentWrites rfl
  have years := ((reservationReturns_iff_years Rfc3339.documented_utc
    (reservationRows_run agentWrites) .stored rfl).mp returned).1.expires
  revert years
  decide +kernel

end Overlong

end TeamComm
