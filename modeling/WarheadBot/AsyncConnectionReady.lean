import WarheadBot.AsyncQueueTransitions

/-!
# Workers and the opening of their connections

The constructor of a connection starts its worker before `Open` is called and
before any statement is prepared, so a worker may call `ExecuteQuery` on a
connection that is not usable yet.  If every worker takes its operations only
after its connection has been opened and prepared, all calls are made on usable
connections, also while the connection is being destroyed.
-/

namespace WarheadBot

namespace AsyncQueue

open GuardedRuns

variable {Operation : Type}

def Connection.HasStatement (connection : Connection Operation) (index : Nat) : Prop :=
  ∃ query : String, connection.stmtList[index]? = some (some query)

/-- The handle is open, and every registered asynchronous statement is
prepared. -/
def Connection.Usable (registry : Option Registry) (connection : Connection Operation) : Prop :=
  connection.mysqlHandle = true ∧ ∀ registered ∈ registry, ∀ statement ∈ registered.statements,
    statement.isAsync = true → connection.HasStatement statement.index

/-- The worker has an operation and has not called `ExecuteQuery` yet. -/
def Worker.holds : Worker Operation → Bool
  | .popped (some _) => true
  | .calling _ => true
  | _ => false

@[simp]
def Stage.isReady : Stage → Bool
  | .ready => true
  | .condemned => true
  | _ => false

/-- The opening of the connection is complete and it still has a handle. -/
def Connection.openingComplete (registry : Option Registry)
    (connection : Connection Operation) : Bool :=
  (connection.stage.isReady || decide (connection.stage = .added) && registry.isNone) &&
    connection.mysqlHandle

def Label.takes : Label Operation → Option Nat
  | .connection index .waitAndPop => some index
  | _ => none

def Label.registers : Label Operation → Bool
  | .doPrepareStatements _ => true
  | _ => false

/-- A worker takes an operation only when the opening of its connection is
complete, and the statements are registered while no worker has an
operation. -/
def TakesWhenOpen (state : State Operation) (label : Label Operation) : Prop :=
  (∀ index ∈ label.takes, ∀ connection ∈ state.connections[index]?,
    state.shared.queue ≠ [] → connection.cancel = false →
      connection.openingComplete state.shared.registry = true) ∧
  (label.registers = true → ∀ connection ∈ state.connections, connection.worker.holds = false)

instance [DecidableEq Operation] (state : State Operation) (label : Label Operation) :
    Decidable (TakesWhenOpen state label) :=
  inferInstanceAs (Decidable (_ ∧ _))

/-- What the stage of a connection says about its statements. -/
structure Connection.Opening (registry : Option Registry) (connection : Connection Operation) :
    Prop where
  ready : connection.stage.isReady = true → ∃ registered, registry = some registered ∧
    ∀ statement ∈ registered.statements, statement.isAsync = true →
      connection.HasStatement statement.index
  preparing : ∀ todo, connection.stage = .preparing todo → ∃ registered done,
    registry = some registered ∧ registered.statements = done ++ todo ∧
      connection.stmtList.length = registered.statementSize ∧
      (connection.prepareError = false → ∀ statement ∈ done,
        statement.isAsync = true →
          connection.HasStatement statement.index)
  holding : connection.worker.holds = true → connection.Usable registry ∧
    (registry = none ∨ connection.stage.isReady = true ∨ connection.stage = .closing)

theorem length_resize (size : Nat) (list : List (Option String)) :
    (resize size list).length = size := by
  rw [resize, List.length_append, List.length_take, List.length_replicate]
  omega

section Moves

variable {shared : Shared Operation} {connection changed : Connection Operation} {move : Move}

theorem prepareStatement_other {statement : StringPreparedStatement} (succeeded : Bool)
    {index : Nat} (different : statement.index ≠ index)
    (present : connection.HasStatement index) :
    (connection.prepareStatement statement succeeded).HasStatement index := by
  obtain ⟨query, found⟩ := present
  refine ⟨query, ?_⟩
  unfold Connection.prepareStatement
  split_ifs
  · simpa [List.getElem?_set_ne different] using found
  · simpa [List.getElem?_set_ne different] using found
  · exact found

theorem prepareStatement_self {statement : StringPreparedStatement} {succeeded : Bool}
    (bound : statement.index < connection.stmtList.length)
    (async : statement.isAsync = true)
    (noError : (connection.prepareStatement statement succeeded).prepareError = false) :
    (connection.prepareStatement statement succeeded).HasStatement statement.index := by
  unfold Connection.prepareStatement at noError ⊢
  cases succeeded with
  | false => simp [async] at noError
  | true =>
      refine ⟨statement.query, ?_⟩
      simp [async, List.getElem?_set_self bound]

theorem prepareStatement_length (statement : StringPreparedStatement) (succeeded : Bool) :
    (connection.prepareStatement statement succeeded).stmtList.length =
      connection.stmtList.length := by
  unfold Connection.prepareStatement
  split_ifs <;> simp

theorem prepareStatement_worker (statement : StringPreparedStatement) (succeeded : Bool) :
    (connection.prepareStatement statement succeeded).worker = connection.worker := by
  unfold Connection.prepareStatement
  split_ifs <;> rfl

theorem prepareError_of_prepareStatement {statement : StringPreparedStatement} {succeeded : Bool}
    (noError : (connection.prepareStatement statement succeeded).prepareError = false) :
    connection.prepareError = false := by
  unfold Connection.prepareStatement at noError
  split_ifs at noError
  · exact noError
  · exact noError

theorem opening_prepareStatement {registry : Option Registry}
    {statement : StringPreparedStatement} {todo : List StringPreparedStatement}
    (succeeded : Bool) (opening : connection.Opening registry)
    (stage : connection.stage = .preparing (statement :: todo)) :
    Connection.Opening registry
      { connection.prepareStatement statement succeeded with stage := .preparing todo } := by
  obtain ⟨registered, done, rfl, split, length, prepared⟩ := opening.preparing _ stage
  have distinct := registered.distinct
  rw [split, List.map_append, List.nodup_append] at distinct
  refine ⟨nofun, ?_, ?_⟩
  · rintro later equal
    cases equal
    refine ⟨registered, done ++ [statement], rfl, by simp [split], ?_, ?_⟩
    · rw [← length]
      exact prepareStatement_length statement succeeded
    · intro noError other member async
      rcases List.mem_append.mp member with earlier | last
      · have different : statement.index ≠ other.index := fun same =>
          distinct.2.2 _ (List.mem_map_of_mem earlier) statement.index (by simp) same.symm
        exact prepareStatement_other succeeded different
          (prepared (prepareError_of_prepareStatement noError) other earlier async)
      · rw [List.mem_singleton.mp last] at async ⊢
        have bound : statement.index < connection.stmtList.length := by
          rw [length]
          exact registered.bounded statement (by simp [split])
        exact prepareStatement_self bound async noError
  · intro holds
    have before : connection.worker.holds = true := by
      rw [← prepareStatement_worker statement succeeded]
      exact holds
    rcases (opening.holding before).2 with none | ready | closing
    · cases none
    · rw [stage] at ready
      cases ready
    · rw [stage] at closing
      cases closing

theorem opening_of_stage {registry : Option Registry} (notReady : connection.stage.isReady = false)
    (notPreparing : ∀ todo, connection.stage ≠ .preparing todo)
    (holding : connection.worker.holds = true → connection.Usable registry ∧
      (registry = none ∨ connection.stage.isReady = true ∨ connection.stage = .closing)) :
    connection.Opening registry := by
  refine ⟨?_, fun todo preparing => absurd preparing (notPreparing todo), holding⟩
  intro ready
  rw [notReady] at ready
  cases ready

theorem opening_destroy {registry : Option Registry} (opening : connection.Opening registry) :
    connection.destroy.Opening registry := by
  apply opening_of_stage
  · simp [Connection.destroy]
  · simp [Connection.destroy]
  · intro holds
    exact ⟨(opening.holding holds).1, .inr (.inr rfl)⟩

/-- What the thread that opens or destroys the connection keeps. -/
theorem opening_openingStep (opening : connection.Opening shared.registry)
    (stepped : connection.OpeningStep shared move changed) :
    changed.Opening shared.registry := by
  cases stepped with
  | opened stage =>
      refine opening_of_stage (by simp) (by simp) ?_
      intro holds
      obtain ⟨usable, rest⟩ := opening.holding holds
      rw [stage] at rest
      exact ⟨⟨rfl, usable.2⟩, by simpa using rest⟩
  | added stage =>
      refine opening_of_stage (by simp) (by simp) ?_
      intro holds
      obtain ⟨usable, rest⟩ := opening.holding holds
      rw [stage] at rest
      exact ⟨usable, by simpa using rest⟩
  | resized registered known stage =>
      refine ⟨nofun, ?_, ?_⟩
      · rintro todo equal
        cases equal
        exact ⟨registered, [], known, rfl, length_resize _ _, by simp⟩
      · intro holds
        obtain ⟨_, rest⟩ := opening.holding holds
        simp [known, stage] at rest
  | prepared statement todo succeeded stage =>
      exact opening_prepareStatement succeeded opening stage
  | finished stage noError =>
      obtain ⟨registered, prepared, known, split, _, complete⟩ := opening.preparing _ stage
      rw [List.append_nil] at split
      refine ⟨?_, nofun, ?_⟩
      · intro _
        refine ⟨registered, known, ?_⟩
        rw [split]
        exact complete noError
      · intro holds
        exact ⟨(opening.holding holds).1, .inr (.inl rfl)⟩
  | condemned stage removable =>
      refine ⟨fun _ => opening.ready (by simp [stage]), nofun, ?_⟩
      intro holds
      exact ⟨(opening.holding holds).1, .inr (.inl rfl)⟩
  | kept stage inUse => exact opening
  | closed stage stopped =>
      refine opening_of_stage (by simp) (by simp) ?_
      intro holds
      simp [stopped, Worker.holds] at holds
  | _ => exact opening_destroy opening

theorem opening_of_worker {registry : Option Registry} (opening : connection.Opening registry)
    {worker : Worker Operation} (holds : worker.holds = true → connection.worker.holds = true) :
    Connection.Opening registry { connection with worker := worker } :=
  ⟨opening.ready, opening.preparing, fun holding => opening.holding (holds holding)⟩

theorem usable_of_openingComplete {registry : Option Registry}
    (opening : connection.Opening registry)
    (complete : connection.openingComplete registry = true) :
    connection.Usable registry ∧
      (registry = none ∨ connection.stage.isReady = true ∨ connection.stage = .closing) := by
  simp only [Connection.openingComplete, Bool.and_eq_true, Bool.or_eq_true,
    decide_eq_true_eq, Option.isNone_iff_eq_none] at complete
  obtain ⟨ready | ⟨_, unregistered⟩, handle⟩ := complete
  · obtain ⟨registered, rfl, prepared⟩ := opening.ready ready
    refine ⟨⟨handle, ?_⟩, .inr (.inl ready)⟩
    rintro other same
    cases same
    exact prepared
  · subst unregistered
    exact ⟨⟨handle, nofun⟩, .inl rfl⟩

/-- What the worker keeps, if it takes operations only when the opening is
complete. -/
theorem opening_workerStep {next : Shared Operation}
    (opening : connection.Opening shared.registry)
    (complete : move = .waitAndPop → shared.queue ≠ [] → connection.cancel = false →
      connection.openingComplete shared.registry = true)
    (stepped : connection.WorkerStep shared move next changed) :
    next.registry = shared.registry ∧ changed.Opening shared.registry := by
  cases stepped with
  | took operation queue waiting uncancelled taken =>
      have nonempty : shared.queue ≠ [] := by simp [taken]
      have usable := usable_of_openingComplete opening (complete rfl nonempty uncancelled)
      exact ⟨rfl, opening.ready, opening.preparing, fun _ => usable⟩
  | passed operation popped uncancelled =>
      exact ⟨rfl, opening_of_worker opening fun _ => by rw [popped]; rfl⟩
  | finished operation used lost running =>
      exact ⟨rfl, opening.ready, opening.preparing, nofun⟩
  | _ => exact ⟨rfl, opening_of_worker opening nofun⟩

theorem opening_move {next : Shared Operation} (opening : connection.Opening shared.registry)
    (complete : move = .waitAndPop → shared.queue ≠ [] → connection.cancel = false →
      connection.openingComplete shared.registry = true)
    (moved : connection.move move shared = some (next, changed)) :
    next.registry = shared.registry ∧ changed.Opening shared.registry := by
  rcases steps_of_move moved with stepped | ⟨rfl, stepped⟩
  · exact opening_workerStep opening complete stepped
  · exact ⟨rfl, opening_openingStep opening stepped⟩

theorem opening_construct (registry : Option Registry) (isDynamic : Bool) (clock : Int) :
    (Connection.construct isDynamic clock : Connection Operation).Opening registry :=
  opening_of_stage rfl nofun nofun

end Moves

def Opened (state : State Operation) : Prop :=
  ∀ connection ∈ state.connections, connection.Opening state.shared.registry

theorem opened_start : Opened (start : State Operation) := by
  intro connection member
  cases member

theorem opened_concat {state : State Operation} (opened : Opened state) (isDynamic : Bool) :
    ∀ connection ∈ state.connections ++ [Connection.construct isDynamic state.shared.clock],
      connection.Opening state.shared.registry := by
  intro connection member
  rcases List.mem_append.mp member with old | new
  · exact opened connection old
  · rw [List.mem_singleton.mp new]
    exact opening_construct _ _ _

section Runs

variable [DecidableEq Operation] {maxAsyncQueueSize : Nat}

theorem opened_step {state next : State Operation} {label : Label Operation}
    (opened : Opened state) (takes : TakesWhenOpen state label)
    (moved : step maxAsyncQueueSize state label = some next) : Opened next := by
  cases poolStep_of_step moved with
  | registered registry unregistered =>
      intro connection member
      have before := opened connection member
      rw [unregistered] at before
      -- Nothing was prepared yet, and no worker has an operation.
      refine opening_of_stage ?_ ?_ ?_
      · rw [← Bool.not_eq_true]
        intro ready
        obtain ⟨_, known, _⟩ := before.ready ready
        cases known
      · intro todo preparing
        obtain ⟨_, _, known, _⟩ := before.preparing todo preparing
        cases known
      · intro holds
        rw [takes.2 rfl connection member] at holds
        cases holds
  | constructed unregistered => exact opened_concat opened false
  | constructedDynamic todo owner idle room => exact opened_concat opened true
  | @moved index move owner shared connections allowed happened =>
      have complete : ∀ party, state.connections[index]? = some party → move = .waitAndPop →
          state.shared.queue ≠ [] → party.cancel = false →
            party.openingComplete state.shared.registry = true := by
        rintro party found rfl
        exact takes.1 index rfl party found
      have sameRegistry : shared.registry = state.shared.registry := by
        obtain ⟨_, party, changed, _, equal, found, moves, _⟩ := Parties.moveAt_eq_some happened
        exact (opening_move (opened party (by simp [equal])) (complete party found) moves).1
      intro connection member
      dsimp only at member ⊢
      rw [sameRegistry]
      refine Parties.forall_of_moveAt happened ?_ opened connection member
      intro party changed found opening moves
      exact (opening_move opening (complete party found) moves).2
  | _ => exact opened

/-- In a run in which workers take operations only when the opening of their
connection is complete, every call of `ExecuteQuery` is made on a connection
with an open handle and all its statements. -/
theorem executeQuery_usable (maxAsyncQueueSize : Nat) {labels : List (Label Operation)}
    {state next : State Operation} {index : Nat}
    (takes : Meets (step maxAsyncQueueSize) TakesWhenOpen start labels)
    (reached : exec (step maxAsyncQueueSize) start labels = some state)
    (called : step maxAsyncQueueSize state (.connection index .executeQuery) = some next) :
    ∃ connection ∈ state.connections[index]?, connection.Usable state.shared.registry := by
  have opened : Opened state := exec_invariant opened_step takes reached opened_start
  cases poolStep_of_step called with
  | moved _ _ _ happened =>
      obtain ⟨_, connection, changed, _, equal, found, moved, _⟩ :=
        Parties.moveAt_eq_some happened
      have opening := opened connection (by simp [equal])
      have holds : connection.worker.holds = true := by
        rcases steps_of_move moved with stepped | ⟨_, stepped⟩
        · cases stepped with
          | called operation calling =>
              rw [calling]
              rfl
        · cases stepped
      exact ⟨connection, found, (opening.holding holds).1⟩

end Runs

/-- The pool with the dynamic connection is opened and prepared before its
worker takes an operation. -/
theorem executeQuery_usable_after_opening :
    ∃ state, exec (step 10) start (overloadedPool ++ openingSteps 1 ++ preparingSteps 1 ++
        [.connection 1 .waitAndPop, .connection 1 .testCancel]) = some state ∧
      ∃ connection ∈ state.connections[1]?, connection.Usable state.shared.registry := by
  have takes : Meets (step 10) TakesWhenOpen start (overloadedPool ++ openingSteps 1 ++
      preparingSteps 1 ++ [.connection 1 .waitAndPop, .connection 1 .testCancel]) := by
    decide +kernel
  exact ⟨_, rfl, executeQuery_usable 10 takes rfl rfl⟩

/-- The worker of the dynamic connection calls `ExecuteQuery` before `Open`. -/
theorem executeQuery_before_open :
    ∃ state next, exec (step 10) start (overloadedPool ++ [.connection 1 .waitAndPop,
        .connection 1 .testCancel]) = some state ∧
      step 10 state (.connection 1 .executeQuery) = some next ∧
      ¬ ∃ connection ∈ state.connections[1]?, connection.Usable state.shared.registry := by
  refine ⟨_, _, rfl, rfl, ?_⟩
  rintro ⟨connection, found, handle, _⟩
  cases found
  cases handle

end AsyncQueue

end WarheadBot
