import TeamComm.Daemon.Effect

/-!
# Error paths

A call which fails leaves the state as it was, and so does a query which succeeds.
-/

namespace TeamComm

open Json (Value)

section Frames

variable [Chrono]

/-- A failed call changes nothing. -/
theorem daemon_error_frame {call : Call} {before : AppStateInner} {failure : Failure}
    (failed : (daemon.step before call).1 = .error failure) :
    (daemon.step before call).2 = before := by
  have effect := daemon_effect call before
  generalize daemon.step before call = result at effect failed
  cases effect with
  | fails => rfl
  | _ => cases failed

/-- A query changes nothing. -/
theorem daemon_query_frame {call : Call} {before : AppStateInner}
    (query : call.method ∈ queryMethods) : (daemon.step before call).2 = before := by
  have effect := daemon_effect call before
  generalize daemon.step before call = result at effect
  cases effect with
  | fails | answers | forgets => rfl
  | refreshes _ _ _ method =>
      rcases method with method | method <;> exact absurd (method ▸ query) (by decide)
  | registers _ method | deregisters _ _ method | claims _ method | releases _ method
  | posts _ method | lists _ _ method | fetches _ _ _ _ _ method | publishes _ method =>
      exact absurd (method ▸ query) (by decide)

/-- An error leaves the five maps as they were, and a query leaves them so on success too. -/
theorem dispatch_keeps_state (method : String) (params : Value) (env : Env)
    (before : AppStateInner) :
    (∀ error, ((dispatch method params env).exec before).1 = .error (.error error) →
      ((dispatch method params env).exec before).2 = before) ∧
    (method ∈ queryMethods → ((dispatch method params env).exec before).2 = before) :=
  ⟨fun error failed => @daemon_error_frame _ ⟨method, params, env⟩ before (.error error) failed,
    fun query => @daemon_query_frame _ ⟨method, params, env⟩ before query⟩

end Frames

attribute [local instance] Chrono.utc

/-- An agent claims a path. -/
def heldCalls : List Call := [
  ⟨"session.register", .object [("pid", .u64 1)], .ofSeconds 0 "a"⟩,
  ⟨"reservation.claim", .object [("session_id", .string "sess_a"), ("path", .string "/src/lib.rs")],
    .ofSeconds 1 "b"⟩]

/-- A reservation which nobody holds cannot be released. -/
theorem dispatch_keeps_state_unknown_reservation :
    (daemon.run newState heldCalls).reservations.containsKey "resv_b" = true ∧
      ((dispatch "reservation.release" (.object [("reservation_id", .string "resv_c")])
        (.ofSeconds 2 "d")).exec (daemon.run newState heldCalls)).2 =
          daemon.run newState heldCalls :=
  ⟨by decide +kernel, (dispatch_keeps_state _ _ _ _).1 (.notFound "reservation resv_c")
    rfl⟩

end TeamComm
