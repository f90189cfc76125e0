import Mathlib.Data.List.Basic
import Mathlib.Tactic.Common

/-!
# Databases which may fail at any statement

Work on a database is a sequence of statements, and the database may fail to execute any of them.
A statement outside a transaction stays once it is executed; a transaction which does not get to
its commit is rolled back.  So work is all-or-nothing as soon as nothing is written in front of a
single transaction, and a loop of statements without one is only where all but the last of them
change nothing.
-/

namespace Transactions

/-- A connection to a database. -/
structure Connection (Content : Type) where
  /-- What the database holds. -/
  content : Content
  /-- How many more statements succeed, if the database is to fail at one. -/
  failsIn : Option ℕ

/-- How many more statements succeed behind another one, unless that one fails. -/
def spend : Option ℕ → Option (Option ℕ)
  | none => some none
  | some 0 => none
  | some (more + 1) => some (some more)

/-- The error of a statement which the database fails to execute. -/
class DatabaseError (Error : Type) where
  failed : Error

/-- A computation on a connection. -/
abbrev Work (Error Content : Type) := ExceptT Error (StateM (Connection Content))

namespace Work

variable {Error Content Part Item α β : Type}

/-- Run a computation on a connection. -/
def exec (work : Work Error Content α) (connection : Connection Content) :
    Except Error α × Connection Content :=
  StateT.run (ExceptT.run work) connection

/-- Work on a part of what the database holds. -/
def zoom (part : Content → Part) (put : Part → Content → Content) (work : Work Error Part α) :
    Work Error Content α := fun connection =>
  match work.exec ⟨part connection.content, connection.failsIn⟩ with
  | (result, after) => (result, ⟨put after.content connection.content, after.failsIn⟩)

section Statements

variable [DatabaseError Error]

/-- Make the database execute one more statement. -/
def tick : Work Error Content PUnit := fun connection =>
  match spend connection.failsIn with
  | none => (.error DatabaseError.failed, { connection with failsIn := none })
  | some failsIn => (.ok ⟨⟩, { connection with failsIn })

/-- A statement which changes the content, or reports an error and changes nothing. -/
def execute (statement : Content → Except Error Content) : Work Error Content PUnit := do
  tick
  let connection ← get
  match statement connection.content with
  | .ok content => set { connection with content }
  | .error error => throw error

/-- A statement which reads the content. -/
def query (statement : Content → Except Error α) : Work Error Content α := do
  tick
  let connection ← get
  match statement connection.content with
  | .ok result => pure result
  | .error error => throw error

/-- Statements between `BEGIN` and `COMMIT`. -/
def enclosed (body : Work Error Content α) : Work Error Content α := do
  tick
  let result ← body
  tick
  return result

/-- A transaction which is dropped without a commit is rolled back. -/
def transaction (body : Work Error Content α) : Work Error Content α := fun connection =>
  match (enclosed body).exec connection with
  | (.ok result, after) => (.ok result, after)
  | (.error error, after) => (.error error, { after with content := connection.content })

/-- One statement for each item, each on its own. -/
def each (update : Item → Content → Content) (items : List Item) : Work Error Content PUnit :=
  items.forM fun item => execute fun content => .ok (update item content)

end Statements

/-! ## Running a computation -/

theorem exec_bind (work : Work Error Content α) (next : α → Work Error Content β)
    (connection : Connection Content) :
    exec (work >>= next) connection =
      match exec work connection with
      | (.ok result, after) => exec (next result) after
      | (.error error, after) => (.error error, after) := by
  change (StateT.bind work (ExceptT.bindCont next) : StateM _ _) connection = _
  rcases outcome : exec work connection with ⟨error | result, after⟩
  all_goals
    simp only [exec, ExceptT.run, StateT.run] at outcome
    simp only [StateT.bind, outcome]
    rfl

@[simp] theorem exec_pure (result : α) (connection : Connection Content) :
    exec (pure result : Work Error Content α) connection = (.ok result, connection) := rfl

@[simp] theorem exec_get (connection : Connection Content) :
    exec (get : Work Error Content (Connection Content)) connection =
      (.ok connection, connection) := rfl

/-- Two parts succeed when the first does and then the second. -/
theorem exec_bind_eq_ok {work : Work Error Content α} {next : α → Work Error Content β}
    {connection after : Connection Content} {result : β} :
    exec (work >>= next) connection = (.ok result, after) ↔ ∃ first between,
      exec work connection = (.ok first, between) ∧
        exec (next first) between = (.ok result, after) := by
  rw [exec_bind]
  rcases exec work connection with ⟨error | first, between⟩
  · simp
  · simp

/-- Two parts fail when the first does, or else the second. -/
theorem exec_bind_eq_error {work : Work Error Content α} {next : α → Work Error Content β}
    {connection after : Connection Content} {error : Error} :
    exec (work >>= next) connection = (.error error, after) ↔
      exec work connection = (.error error, after) ∨ ∃ first between,
        exec work connection = (.ok first, between) ∧
          exec (next first) between = (.error error, after) := by
  rw [exec_bind]
  rcases exec work connection with ⟨other | first, between⟩
  · simp
  · simp

theorem exec_zoom (part : Content → Part) (put : Part → Content → Content)
    (work : Work Error Part α) (content : Content) (failsIn : Option ℕ) :
    exec (zoom part put work) ⟨content, failsIn⟩ =
      ((exec work ⟨part content, failsIn⟩).1,
        ⟨put (exec work ⟨part content, failsIn⟩).2.content content,
          (exec work ⟨part content, failsIn⟩).2.failsIn⟩) := rfl

section Statements

variable [DatabaseError Error] (content : Content) (failsIn : Option ℕ)

theorem exec_tick : exec (tick : Work Error Content PUnit) ⟨content, failsIn⟩ =
    match spend failsIn with
    | none => (.error DatabaseError.failed, ⟨content, none⟩)
    | some rest => (.ok ⟨⟩, ⟨content, rest⟩) := rfl

theorem exec_execute (statement : Content → Except Error Content) :
    exec (execute statement) ⟨content, failsIn⟩ =
      match spend failsIn, statement content with
      | none, _ => (.error DatabaseError.failed, ⟨content, none⟩)
      | some rest, .ok left => (.ok ⟨⟩, ⟨left, rest⟩)
      | some rest, .error error => (.error error, ⟨content, rest⟩) := by
  rw [execute, exec_bind, exec_tick]
  cases spend failsIn with
  | none => rfl
  | some rest =>
      dsimp only
      rw [exec_bind, exec_get]
      dsimp only
      cases statement content <;> rfl

theorem exec_query (statement : Content → Except Error α) :
    exec (query statement) ⟨content, failsIn⟩ =
      match spend failsIn with
      | none => (.error DatabaseError.failed, ⟨content, none⟩)
      | some rest => (statement content, ⟨content, rest⟩) := by
  rw [query, exec_bind, exec_tick]
  cases spend failsIn with
  | none => rfl
  | some rest =>
      dsimp only
      rw [exec_bind, exec_get]
      dsimp only
      cases statement content <;> rfl

theorem exec_transaction (body : Work Error Content α) :
    exec (transaction body) ⟨content, failsIn⟩ =
      match exec (enclosed body) ⟨content, failsIn⟩ with
      | (.ok result, after) => (.ok result, after)
      | (.error error, after) => (.error error, { after with content }) := rfl

/-! The database which never fails by itself. -/

theorem exec_execute_none (statement : Content → Except Error Content) :
    exec (execute statement) ⟨content, none⟩ =
      match statement content with
      | .ok left => (.ok ⟨⟩, ⟨left, none⟩)
      | .error error => (.error error, ⟨content, none⟩) := by
  rw [exec_execute]
  cases statement content <;> rfl

theorem exec_query_none (statement : Content → Except Error α) :
    exec (query statement) ⟨content, none⟩ = (statement content, ⟨content, none⟩) :=
  exec_query content none statement

/-- A transaction which is not rolled back does what its statements do. -/
theorem exec_transaction_none {body : Work Error Content α} {left : Content} {result : α}
    (done : exec body ⟨content, none⟩ = (.ok result, ⟨left, none⟩)) :
    exec (transaction body) ⟨content, none⟩ = (.ok result, ⟨left, none⟩) := by
  have statements : exec (enclosed body) ⟨content, none⟩ = (.ok result, ⟨left, none⟩) := by
    rw [enclosed, exec_bind, exec_tick]
    dsimp only [spend]
    rw [exec_bind, done]
    rfl
  rw [exec_transaction, statements]

variable {content failsIn}

theorem tick_of_ok {result : PUnit} {after : Connection Content}
    (done : exec (tick : Work Error Content PUnit) ⟨content, failsIn⟩ = (.ok result, after)) :
    after.content = content := by
  rw [exec_tick] at done
  generalize spend failsIn = spent at done
  cases spent with
  | none => cases (Prod.mk.inj done).1
  | some rest => exact (congrArg Connection.content (Prod.mk.inj done).2).symm

theorem execute_of_ok {statement : Content → Except Error Content} {result : PUnit}
    {after : Connection Content}
    (done : exec (execute statement) ⟨content, failsIn⟩ = (.ok result, after)) :
    statement content = .ok after.content := by
  rw [exec_execute] at done
  generalize spend failsIn = spent at done
  generalize statement content = changed at done
  rcases spent with _ | rest
  · cases (Prod.mk.inj done).1
  · cases changed with
    | error => cases (Prod.mk.inj done).1
    | ok left => exact congrArg (Except.ok ∘ Connection.content) (Prod.mk.inj done).2

theorem query_of_ok {statement : Content → Except Error α} {result : α}
    {after : Connection Content}
    (done : exec (query statement) ⟨content, failsIn⟩ = (.ok result, after)) :
    statement content = .ok result ∧ after.content = content := by
  rw [exec_query] at done
  generalize spend failsIn = spent at done
  cases spent with
  | none => cases (Prod.mk.inj done).1
  | some rest =>
      obtain ⟨answer, same⟩ := Prod.mk.inj done
      exact ⟨answer, (congrArg Connection.content same).symm⟩

/-- A transaction which is committed does what its body does. -/
theorem transaction_of_ok {body : Work Error Content α} {result : α} {after : Connection Content}
    (done : exec (transaction body) ⟨content, failsIn⟩ = (.ok result, after)) :
    ∃ begun ending, exec body ⟨content, begun⟩ = (.ok result, ending) ∧
      after.content = ending.content := by
  have whole : exec (enclosed body) ⟨content, failsIn⟩ = (.ok result, after) := by
    rw [exec_transaction] at done
    generalize exec (enclosed body) ⟨content, failsIn⟩ = outcome at done ⊢
    obtain ⟨error | other, left⟩ := outcome
    · cases (Prod.mk.inj done).1
    · exact done
  obtain ⟨_, ⟨same, begun⟩, began, statements⟩ := exec_bind_eq_ok.mp whole
  obtain ⟨inner, ending, body_done, rest⟩ := exec_bind_eq_ok.mp statements
  obtain ⟨_, committed, commit, last⟩ := exec_bind_eq_ok.mp rest
  obtain ⟨answer, rfl⟩ := Prod.mk.inj last
  obtain rfl := Except.ok.inj answer
  obtain rfl : same = content := tick_of_ok began
  exact ⟨begun, ending, body_done, tick_of_ok commit⟩

variable (content failsIn)

/-- What is made of the result of a transaction does not matter to the transaction. -/
theorem exec_transaction_map (make : α → β) (body : Work Error Content α) :
    exec (transaction (body >>= fun result => pure (make result))) ⟨content, failsIn⟩ =
      ((exec (transaction body) ⟨content, failsIn⟩).1.map make,
        (exec (transaction body) ⟨content, failsIn⟩).2) := by
  have statements : exec (enclosed (body >>= fun result => pure (make result)))
      ⟨content, failsIn⟩ = ((exec (enclosed body) ⟨content, failsIn⟩).1.map make,
        (exec (enclosed body) ⟨content, failsIn⟩).2) := by
    simp only [enclosed, exec_bind]
    rcases exec (tick : Work Error Content PUnit) ⟨content, failsIn⟩ with ⟨error | _, begun⟩
    · rfl
    · dsimp only
      rcases exec body begun with ⟨error | result, done⟩
      · rfl
      · dsimp only [exec_pure]
        rcases exec (tick : Work Error Content PUnit) done with ⟨error | _, after⟩ <;> rfl
  rw [exec_transaction, exec_transaction, statements]
  rcases exec (enclosed body) ⟨content, failsIn⟩ with ⟨error | result, after⟩ <;> rfl

end Statements

/-! ## What work leaves alone -/

/-- A view of the content stays as it was, whatever comes out. -/
def Keeps (view : Content → Part) (work : Work Error Content α) : Prop :=
  ∀ content failsIn, view (work.exec ⟨content, failsIn⟩).2.content = view content

section Views

variable {view : Content → Part}

theorem Keeps.pure (result : α) : Keeps view (pure result : Work Error Content α) :=
  fun _ _ => rfl

theorem Keeps.bind {work : Work Error Content α} {next : α → Work Error Content β}
    (first : Keeps view work) (second : ∀ result, Keeps view (next result)) :
    Keeps view (work >>= next) := by
  intro content failsIn
  have unchanged := first content failsIn
  rw [exec_bind]
  generalize exec work ⟨content, failsIn⟩ = outcome at unchanged ⊢
  obtain ⟨error | result, left, rest⟩ := outcome
  · exact unchanged
  · exact (second result left rest).trans unchanged

theorem Keeps.forM {each : Item → Work Error Content PUnit} (keeps : ∀ item, Keeps view (each item))
    (items : List Item) : Keeps view (items.forM each) := by
  induction items with
  | nil => exact Keeps.pure _
  | cons item items ih => exact (keeps item).bind fun _ => ih

variable [DatabaseError Error]

theorem Keeps.tick : Keeps view (tick : Work Error Content PUnit) := by
  intro content failsIn
  rw [exec_tick]
  cases spend failsIn <;> rfl

theorem Keeps.query (statement : Content → Except Error α) : Keeps view (query statement) := by
  intro content failsIn
  rw [exec_query]
  cases spend failsIn <;> rfl

theorem Keeps.execute {statement : Content → Except Error Content}
    (keeps : ∀ content left, statement content = .ok left → view left = view content) :
    Keeps view (execute statement) := by
  intro content failsIn
  rw [exec_execute]
  rcases spend failsIn with _ | rest
  · rfl
  · cases changed : statement content with
    | error => rfl
    | ok left => exact keeps content left changed

theorem Keeps.transaction {body : Work Error Content α} (keeps : Keeps view body) :
    Keeps view (transaction body) := by
  have statements : Keeps view (enclosed body) :=
    Keeps.tick.bind fun _ => keeps.bind fun result => Keeps.tick.bind fun _ => Keeps.pure result
  intro content failsIn
  have unchanged := statements content failsIn
  rw [exec_transaction]
  generalize exec (enclosed body) ⟨content, failsIn⟩ = outcome at unchanged ⊢
  obtain ⟨error | result, left, rest⟩ := outcome
  · rfl
  · exact unchanged

end Views

/-! ## All or nothing -/

/-- Whichever statement fails, the content stays as it was. -/
def AllOrNothingAt (content : Content) (work : Work Error Content α) : Prop :=
  ∀ failsIn error after, work.exec ⟨content, failsIn⟩ = (.error error, after) →
    after.content = content

/-- Whatever the content is and whichever statement fails, the content stays as it was. -/
def AllOrNothing (work : Work Error Content α) : Prop := ∀ content, AllOrNothingAt content work

theorem AllOrNothing.pure (result : α) : AllOrNothing (pure result : Work Error Content α) :=
  fun _ _ _ _ failed => by cases (Prod.mk.inj failed).1

/-- Work which is all-or-nothing may be prepared by reading. -/
theorem Keeps.bind_allOrNothing {work : Work Error Content α}
    {next : α → Work Error Content β} (reads : Keeps id work)
    (single : ∀ result, AllOrNothing (next result)) : AllOrNothing (work >>= next) := by
  intro content failsIn error after failed
  have unchanged := reads content failsIn
  rcases exec_bind_eq_error.mp failed with failed | ⟨result, ⟨left, rest⟩, done, failed⟩
  · rw [failed] at unchanged
    exact unchanged
  · rw [done] at unchanged
    exact (single result left rest error after failed).trans unchanged

section Zoom

variable {part : Content → Part} {put : Part → Content → Content}

/-- What leaves a part alone leaves the whole alone. -/
theorem AllOrNothingAt.zoom (put_part : ∀ content, put (part content) content = content)
    {content : Content} {work : Work Error Part α} (single : AllOrNothingAt (part content) work) :
    AllOrNothingAt content (zoom part put work) := by
  intro failsIn error after failed
  rw [exec_zoom] at failed
  obtain ⟨part_failed, rfl⟩ := Prod.mk.inj failed
  have unchanged := single failsIn error _ (Prod.ext part_failed rfl)
  exact (congrArg (put · content) unchanged).trans (put_part content)

end Zoom

section Statements

variable [DatabaseError Error]

theorem AllOrNothing.execute (statement : Content → Except Error Content) :
    AllOrNothing (execute statement) := by
  intro content failsIn error after failed
  rw [exec_execute] at failed
  generalize spend failsIn = spent at failed
  generalize statement content = changed at failed
  rcases spent with _ | rest
  · exact (congrArg Connection.content (Prod.mk.inj failed).2).symm
  · cases changed with
    | error => exact (congrArg Connection.content (Prod.mk.inj failed).2).symm
    | ok left => cases (Prod.mk.inj failed).1

/-- A transaction is all-or-nothing. -/
theorem AllOrNothing.transaction (body : Work Error Content α) :
    AllOrNothing (transaction body) := by
  intro content failsIn error after failed
  rw [exec_transaction] at failed
  generalize exec (enclosed body) ⟨content, failsIn⟩ = outcome at failed
  obtain ⟨other | result, left⟩ := outcome
  · obtain ⟨-, rfl⟩ := Prod.mk.inj failed
    rfl
  · cases (Prod.mk.inj failed).1

/-- A statement which reads does not make a difference to what follows. -/
theorem allOrNothingAt_tick_bind {content : Content} {next : PUnit → Work Error Content α} :
    AllOrNothingAt content (Work.tick >>= next) ↔ AllOrNothingAt content (next ⟨⟩) := by
  constructor
  · intro single failsIn error after failed
    refine single (failsIn.map (· + 1)) error after ?_
    rw [exec_bind, exec_tick]
    cases failsIn with
    | none => exact failed
    | some more => exact failed
  · intro single failsIn error after failed
    rw [exec_bind, exec_tick] at failed
    generalize spend failsIn = spent at failed
    cases spent with
    | none => exact (congrArg Connection.content (Prod.mk.inj failed).2).symm
    | some rest => exact single rest error after failed

/-! ## Loops -/

variable {update : Item → Content → Content} {items : List Item} {content : Content}

theorem exec_each_nil (connection : Connection Content) :
    exec (each update [] : Work Error Content PUnit) connection = (.ok ⟨⟩, connection) := rfl

theorem exec_each_cons (item : Item) (items : List Item) (content : Content)
    (failsIn : Option ℕ) : exec (each update (item :: items)) ⟨content, failsIn⟩ =
      match spend failsIn with
      | none => (.error DatabaseError.failed, ⟨content, none⟩)
      | some rest => exec (each update items : Work Error Content PUnit)
          ⟨update item content, rest⟩ := by
  have parts : (each update (item :: items) : Work Error Content PUnit) =
      execute (fun content => .ok (update item content)) >>= fun _ => each update items := rfl
  rw [parts, exec_bind, exec_execute]
  cases spend failsIn <;> rfl

/-- A loop which gets through has updated for each item. -/
theorem exec_each_none (update : Item → Content → Content) (items : List Item)
    (content : Content) : exec (each update items : Work Error Content PUnit) ⟨content, none⟩ =
      (.ok ⟨⟩, ⟨items.foldl (fun content item => update item content) content, none⟩) := by
  induction items generalizing content with
  | nil => rfl
  | cons item items ih =>
      rw [exec_each_cons]
      exact ih _

/-- Whatever comes of a loop, it has updated for the items in front. -/
theorem exists_front_each (update : Item → Content → Content) (items : List Item)
    (content : Content) (failsIn : Option ℕ) : ∃ front, front <+: items ∧
      (exec (each update items : Work Error Content PUnit) ⟨content, failsIn⟩).2.content =
        front.foldl (fun content item => update item content) content := by
  induction items generalizing content failsIn with
  | nil => exact ⟨[], List.prefix_refl _, rfl⟩
  | cons item items ih =>
      rw [exec_each_cons]
      cases spend failsIn with
      | none => exact ⟨[], List.nil_prefix, rfl⟩
      | some rest =>
          obtain ⟨front, inside, reached⟩ := ih (update item content) rest
          exact ⟨item :: front, List.cons_prefix_cons.mpr ⟨rfl, inside⟩, reached⟩

/-- A loop of statements is all-or-nothing exactly where all but the last change nothing. -/
theorem allOrNothingAt_each : AllOrNothingAt content (each update items : Work Error Content _) ↔
    ∀ item ∈ items.dropLast, update item content = content := by
  induction items with
  | nil => simp [AllOrNothingAt, exec_each_nil]
  | cons item items ih =>
      cases items with
      | nil =>
          refine iff_of_true (fun failsIn error after failed => ?_) (by simp)
          rw [exec_each_cons] at failed
          generalize spend failsIn = spent at failed
          cases spent with
          | none => exact (congrArg Connection.content (Prod.mk.inj failed).2).symm
          | some rest => cases (Prod.mk.inj failed).1
      | cons next items =>
          rw [List.dropLast_cons_cons, List.forall_mem_cons, ← ih]
          constructor
          · intro single
            -- The database fails at the second statement.
            have first : update item content = content :=
              single (some 1) DatabaseError.failed ⟨update item content, none⟩
                ((exec_each_cons _ _ _ _).trans (exec_each_cons _ _ _ _))
            refine ⟨first, fun failsIn error after failed => ?_⟩
            refine single (failsIn.map (· + 1)) error after ?_
            rw [exec_each_cons]
            cases failsIn with
            | none => simpa only [Option.map_none, spend, first] using failed
            | some more => simpa only [Option.map_some, spend, first] using failed
          · rintro ⟨first, single⟩ failsIn error after failed
            rw [exec_each_cons, first] at failed
            generalize spend failsIn = spent at failed
            cases spent with
            | none => exact (congrArg Connection.content (Prod.mk.inj failed).2).symm
            | some rest => exact single rest error after failed

end Statements

/-! ## Counting statements -/

section Counting

variable [DatabaseError Error]

/-- On this content the work executes a number of statements and reports no error of its own. -/
structure Takes (work : Work Error Content α) (content : Content) (statements : ℕ) (result : α)
    (left : Content) : Prop where
  /-- The database never fails. -/
  none : work.exec ⟨content, .none⟩ = (.ok result, ⟨left, .none⟩)
  /-- The database fails later. -/
  later : ∀ more, work.exec ⟨content, some (statements + more)⟩ = (.ok result, ⟨left, some more⟩)
  /-- The database fails at one of the statements. -/
  fails : ∀ n < statements, ∃ after,
    work.exec ⟨content, some n⟩ = (.error DatabaseError.failed, after)

variable {content left : Content}

theorem Takes.pure (result : α) (content : Content) :
    Takes (pure result : Work Error Content α) content 0 result content where
  none := rfl
  later more := by rw [Nat.zero_add]; rfl
  fails n lt := absurd lt (Nat.not_lt_zero n)

theorem Takes.tick (content : Content) :
    Takes (tick : Work Error Content PUnit) content 1 ⟨⟩ content where
  none := rfl
  later more := by rw [Nat.add_comm]; rfl
  fails n lt := by
    obtain rfl := Nat.lt_one_iff.mp lt
    exact ⟨_, rfl⟩

theorem Takes.execute {statement : Content → Except Error Content}
    (changes : statement content = .ok left) : Takes (execute statement) content 1 ⟨⟩ left where
  none := by rw [exec_execute, changes]; rfl
  later more := by rw [Nat.add_comm, exec_execute, changes]; rfl
  fails n lt := by
    obtain rfl := Nat.lt_one_iff.mp lt
    exact ⟨_, rfl⟩

theorem Takes.query {statement : Content → Except Error α} {result : α}
    (answers : statement content = .ok result) :
    Takes (query statement) content 1 result content where
  none := by rw [exec_query, answers]; rfl
  later more := by rw [Nat.add_comm, exec_query, answers]; rfl
  fails n lt := by
    obtain rfl := Nat.lt_one_iff.mp lt
    exact ⟨_, rfl⟩

theorem Takes.bind {work : Work Error Content α} {next : α → Work Error Content β}
    {middle : Content} {between : α} {result : β} {front back : ℕ}
    (first : Takes work content front between middle)
    (second : Takes (next between) middle back result left) :
    Takes (work >>= next) content (front + back) result left where
  none := exec_bind_eq_ok.mpr ⟨between, _, first.none, second.none⟩
  later more := by
    rw [Nat.add_assoc]
    exact exec_bind_eq_ok.mpr ⟨between, _, first.later _, second.later _⟩
  fails n lt := by
    rcases Nat.lt_or_ge n front with early | late
    · obtain ⟨after, failed⟩ := first.fails n early
      exact ⟨after, exec_bind_eq_error.mpr (Or.inl failed)⟩
    · obtain ⟨more, rfl⟩ := Nat.exists_eq_add_of_le late
      obtain ⟨after, failed⟩ := second.fails more (by omega)
      exact ⟨after, exec_bind_eq_error.mpr (Or.inr ⟨between, _, first.later more, failed⟩)⟩

/-- A transaction needs two statements of its own. -/
theorem Takes.transaction {body : Work Error Content α} {result : α} {statements : ℕ}
    (takes : Takes body content statements result left) :
    Takes (transaction body) content (statements + 2) result left := by
  have count : statements + 2 = 1 + (statements + (1 + 0)) := by omega
  have whole : Takes (enclosed body) content (statements + 2) result left := by
    rw [count]
    exact (Takes.tick content).bind (takes.bind ((Takes.tick left).bind (Takes.pure result left)))
  constructor
  · rw [exec_transaction, whole.none]
  · exact fun more => by rw [exec_transaction, whole.later]
  · intro n lt
    obtain ⟨after, failed⟩ := whole.fails n lt
    exact ⟨_, by rw [exec_transaction, failed]⟩

theorem Takes.zoom {part : Content → Part} {put : Part → Content → Content}
    {work : Work Error Part α} {statements : ℕ} {result : α} {part_left : Part}
    (takes : Takes work (part content) statements result part_left) :
    Takes (zoom part put work) content statements result (put part_left content) where
  none := by rw [exec_zoom, takes.none]
  later more := by rw [exec_zoom, takes.later]
  fails n lt := by
    obtain ⟨after, failed⟩ := takes.fails n lt
    exact ⟨_, by rw [exec_zoom, failed]⟩

/-- The database lets a number of statements through. -/
def LetsThrough (failsIn : Option ℕ) (statements : ℕ) : Prop := ∀ n ∈ failsIn, statements ≤ n

instance (failsIn : Option ℕ) (statements : ℕ) : Decidable (LetsThrough failsIn statements) :=
  inferInstanceAs (Decidable (∀ n ∈ failsIn, statements ≤ n))

theorem letsThrough_one {failsIn : Option ℕ} :
    LetsThrough failsIn 1 ↔ ∃ rest, spend failsIn = some rest := by
  rcases failsIn with _ | _ | more <;> simp [LetsThrough, spend]

/-- Work succeeds exactly when the database lets its statements through. -/
theorem Takes.exists_ok_iff {work : Work Error Content α} {statements : ℕ} {result : α}
    (takes : Takes work content statements result left) (failsIn : Option ℕ) :
    (∃ other after, work.exec ⟨content, failsIn⟩ = (.ok other, after)) ↔
      LetsThrough failsIn statements := by
  unfold LetsThrough
  cases failsIn with
  | none => exact iff_of_true ⟨_, _, takes.none⟩ (by simp)
  | some n =>
      simp only [Option.mem_some_iff, forall_eq']
      rcases Nat.lt_or_ge n statements with early | late
      · obtain ⟨after, failed⟩ := takes.fails n early
        refine iff_of_false ?_ (Nat.not_le_of_lt early)
        rintro ⟨other, reached, done⟩
        rw [failed] at done
        cases (Prod.mk.inj done).1
      · obtain ⟨more, rfl⟩ := Nat.exists_eq_add_of_le late
        exact iff_of_true ⟨_, _, takes.later more⟩ late

end Counting

end Work

end Transactions
