import TeamComm.Paths
import TeamComm.Properties.DiscoveryFilters

/-!
# The path filter

The path filter of `discover.agents` should match a focus file which equals the path or is under it.
What the daemon tests is whether the text of the focus file starts with the text of the path, which
comes to the same as long as texts go on at the boundaries of components and both paths spell what
they share in the same way.
-/

namespace TeamComm

open Json (Value)

/-- The live focus file of a session. -/
def focusOf (state : AppStateInner) (id : String) : Option PathBuf :=
  (state.liveState.get id).bind LiveState.focusFile

/-- A text which starts with the text of a filter goes on at a boundary, and a path under the filter
starts with its text. -/
structure SpelledAlike (front focus : PathBuf) : Prop where
  /-- The text goes on at the end of a component. -/
  boundary : ∀ rest, focus.inner.toList = front.inner.toList ++ rest →
    PathBuf.AtBoundary front.inner.toList rest
  /-- What the paths share is spelled the same. -/
  spelled : focus.isUnder front = true → startsWith focus.inner front.inner = true

theorem startsWith_iff {text front : String} :
    startsWith text front = true ↔ ∃ rest, text.toList = front.toList ++ rest := by
  rw [startsWith, List.isPrefixOf_iff_prefix]
  constructor
  · rintro ⟨rest, same⟩
    exact ⟨rest, same.symm⟩
  · rintro ⟨rest, same⟩
    exact ⟨rest, same.symm⟩

/-- Where one text goes on from another, the paths are under each other at boundaries only. -/
theorem isUnder_iff_of_text {front focus : PathBuf} {rest : List Char}
    (text : focus.inner.toList = front.inner.toList ++ rest) :
    focus.isUnder front = true ↔ PathBuf.AtBoundary front.inner.toList rest := by
  have longer := PathBuf.isUnder_append_iff front.inner.toList rest
  rw [← text, String.ofList_toList, String.ofList_toList] at longer
  exact longer

/-- The two tests agree on paths which are spelled alike, and on no others. -/
theorem spelledAlike_iff {front focus : PathBuf} :
    SpelledAlike front focus ↔
      (startsWith focus.inner front.inner = true ↔ focus.isUnder front = true) := by
  constructor
  · intro alike
    refine ⟨fun starts => ?_, alike.spelled⟩
    obtain ⟨rest, text⟩ := startsWith_iff.mp starts
    exact (isUnder_iff_of_text text).mpr (alike.boundary rest text)
  · intro agree
    refine ⟨fun rest text => ?_, agree.mpr⟩
    exact (isUnder_iff_of_text text).mp (agree.mp (startsWith_iff.mpr ⟨rest, text⟩))

section Selection

variable [Chrono] {state : AppStateInner} {call : Call} {front : PathBuf}

/-- A call finds a session. -/
def Finds (state : AppStateInner) (call : Call) (id : String) : Prop :=
  ∃ item ∈ returned state call, item.member "session_id" = some (.string id)

/-- A path filter selects the sessions whose focus file equals the path or is under it. -/
def SelectsUnder (state : AppStateInner) (call : Call) (front : PathBuf) : Prop :=
  ∀ id session, state.sessions.get id = some session →
    (Finds state call id ↔ ∃ focus, focusOf state id = some focus ∧ focus.isUnder front = true)

/-- A path filter selects the sessions whose focus file starts with its text. -/
theorem finds_iff (asks : Asks call { path := some front }) {id : String} {session : Session}
    (found : state.sessions.get id = some session) :
    Finds state call id ↔
      ∃ focus, focusOf state id = some focus ∧ startsWith focus.inner front.inner = true := by
  have passes : admits state { path := some front } id session = true ↔
      ∃ focus, focusOf state id = some focus ∧ startsWith focus.inner front.inner = true := by
    rw [admits, discovered, focusOf]
    cases (state.liveState.get id).bind LiveState.focusFile <;> simp
  rw [← passes, ← summary_mem_returned asks found]
  constructor
  · rintro ⟨item, member, named⟩
    obtain ⟨other, another, other_found, -, rfl⟩ := (mem_returned asks).mp member
    have same := sessionId_summary (summaryOf state other another)
    rw [Value.get, named] at same
    obtain rfl : id = other := Json.string.inj (Option.some.inj same)
    obtain rfl := Option.some.inj (other_found.symm.trans found)
    exact member
  · exact fun member => ⟨_, member, sessionId_summary _⟩

/-- A path filter selects what is under its path exactly when the focus files of all sessions are
spelled like the path. -/
theorem selectsUnder_iff (asks : Asks call { path := some front }) :
    SelectsUnder state call front ↔
      ∀ id session focus, state.sessions.get id = some session → focusOf state id = some focus →
        SpelledAlike front focus := by
  constructor
  · intro selects id session focus found live
    have agree := (finds_iff asks found).symm.trans (selects id session found)
    rw [live] at agree
    simpa [spelledAlike_iff] using agree
  · intro alike id session found
    rw [finds_iff asks found]
    apply exists_congr
    intro focus
    apply and_congr_right
    intro live
    exact spelledAlike_iff.mp (alike id session focus found live)

end Selection

section Examples

attribute [local instance] Chrono.utc

/-- An agent works below `/src/library`. -/
def libraryCalls : List Call := [
  ⟨"session.register", .object [("pid", .u64 1)], .ofSeconds 0 "a"⟩,
  ⟨"state.set", .object [("session_id", .string "sess_a"),
    ("focus_file", .string "/src/library/mod.rs")], .ofSeconds 1 "b"⟩]

theorem selectsUnder_iff_library :
    SelectsUnder (daemon.run newState libraryCalls)
      (DiscoveryQuery.call { path := some ⟨"/src"⟩ } (.ofSeconds 2 "c")) ⟨"/src"⟩ := by
  refine (selectsUnder_iff (asks_call _ _)).mpr fun id session focus found live => ?_
  by_cases same : id = "sess_a"
  · subst same
    obtain rfl : (⟨"/src/library/mod.rs"⟩ : PathBuf) = focus := Option.some.inj live
    exact spelledAlike_iff.mpr (by decide)
  · have nothing : (daemon.run newState libraryCalls).liveState.get id = none :=
      HashMap.get_insert_of_ne _ _ same
    rw [focusOf, nothing] at live
    cases live

/-- A filter for `/src/lib` returns the agent as well. -/
theorem not_selectsUnder_library :
    ¬∀ (calls : List Call) (front : PathBuf) (call : Call), Asks call { path := some front } →
      SelectsUnder (daemon.run newState calls) call front := by
  intro selects
  have asks := asks_call { path := some ⟨"/src/lib"⟩ } (.ofSeconds 2 "c")
  have found : (daemon.run newState libraryCalls).sessions.get "sess_a" =
      some (newSession (.ofSeconds 0 "a") 1 (.custom "custom") ⟨"/"⟩ []) := rfl
  have live : focusOf (daemon.run newState libraryCalls) "sess_a" =
      some ⟨"/src/library/mod.rs"⟩ := rfl
  have shown := (finds_iff asks found).mpr ⟨_, live, by decide⟩
  obtain ⟨focus, same, under⟩ := (selects libraryCalls _ _ asks "sess_a" _ found).mp shown
  obtain rfl := Option.some.inj (live.symm.trans same)
  revert under
  decide

end Examples

end TeamComm
