import Mathlib.Data.List.Count
import WarheadBot.DatabaseMgr

/-!
# What is open after loading

A pool is on the stack of the manager exactly if it has a synchronous connection.  Loading
runs the operations in their order up to the first that fails, and then calls `Close` for
every pool that is on the stack, the last opened first.  If the failed operation was to
prepare the statements of a pool, this pool may have closed itself before.
-/

namespace WarheadBot

namespace DatabaseManager

open PoolOpening (DatabaseWorkerPool openPool_cases)
open GuardedRuns

namespace DatabaseMgr

variable {settings : Settings} {answers : Answers} {mgr next last : DatabaseMgr}

/-- Some calls of `Open` on one pool, of which the last has returned this error. -/
structure Tried (pool error calls : Nat) (mgr next : DatabaseMgr) : Prop where
  queues : next.queues = mgr.queues
  closeStack : next.closeStack = mgr.closeStack
  poolList : next.poolList = mgr.poolList
  events : next.events = mgr.events
  others : ∀ other, other ≠ pool → next.pools other = mgr.pools other
  opened : error = 0 → (next.pools pool).asyncConnections ≠ [] ∧
    (next.pools pool).syncConnections ≠ []
  failed : error ≠ 0 →
    (next.pools pool).syncConnections = (mgr.pools pool).syncConnections
  kept : (mgr.pools pool).asyncConnections ≠ [] → (next.pools pool).asyncConnections ≠ []
  calls : next.calls ≤ mgr.calls + calls

theorem tried_callOpen (settings : Settings) (answers : Answers) (pool : Nat)
    (mgr : DatabaseMgr) :
    Tried pool (callOpen settings answers pool mgr).1 1 mgr
      (callOpen settings answers pool mgr).2 := by
  have others (other : Nat) (differs : other ≠ pool) :
      (callOpen settings answers pool mgr).2.pools other = mgr.pools other :=
    Function.update_of_ne differs _ _
  have changed : (callOpen settings answers pool mgr).2.pools pool =
      ((mgr.pools pool).openPool settings.build (answers.attempt mgr.calls)).2 :=
    Function.update_self _ _ _
  have error : (callOpen settings answers pool mgr).1 =
      ((mgr.pools pool).openPool settings.build (answers.attempt mgr.calls)).1 := rfl
  rcases openPool_cases settings.build (mgr.pools pool) (answers.attempt mgr.calls) with
    ⟨fails, opened⟩ | ⟨half, opened⟩ | ⟨-, -, opened⟩
  · rw [opened] at changed error
    refine ⟨rfl, rfl, rfl, rfl, others, ?_, ?_, ?_, Nat.le_refl _⟩
    · intro none
      exact absurd (error.symm.trans none) fails
    · intro _
      rw [changed]
    · rw [changed]
      exact id
  · rw [opened] at changed error
    refine ⟨rfl, rfl, rfl, rfl, others, ?_, ?_, ?_, Nat.le_refl _⟩
    · intro none
      exact absurd (error.symm.trans none) half.2
    · intro _
      rw [changed]
    · rw [changed]
      exact fun _ => List.append_ne_nil_of_right_ne_nil _ (List.cons_ne_nil _ _)
  · rw [opened] at changed error
    refine ⟨rfl, rfl, rfl, rfl, others, ?_, ?_, ?_, Nat.le_refl _⟩
    · intro _
      rw [changed]
      exact ⟨List.append_ne_nil_of_right_ne_nil _ (List.cons_ne_nil _ _),
        List.append_ne_nil_of_right_ne_nil _ (List.cons_ne_nil _ _)⟩
    · intro some
      exact absurd error some
    · rw [changed]
      exact fun _ => List.append_ne_nil_of_right_ne_nil _ (List.cons_ne_nil _ _)

theorem Tried.trans {pool first second calls more : Nat} (tried : Tried pool first calls mgr next)
    (fails : first ≠ 0) (again : Tried pool second more next last) :
    Tried pool second (calls + more) mgr last where
  queues := again.queues.trans tried.queues
  closeStack := again.closeStack.trans tried.closeStack
  poolList := again.poolList.trans tried.poolList
  events := again.events.trans tried.events
  others other differs := (again.others other differs).trans (tried.others other differs)
  opened := again.opened
  failed some := (again.failed some).trans (tried.failed fails)
  kept some := again.kept (tried.kept some)
  calls := by
    have first := tried.calls
    have second := again.calls
    omega

theorem Tried.weaken {pool error calls more : Nat} (tried : Tried pool error calls mgr next)
    (fewer : calls ≤ more) : Tried pool error more mgr next :=
  { tried with
    calls := by
      have bound := tried.calls
      omega }

/-- One failure is as good as another. -/
theorem Tried.fail {pool error other calls : Nat} (tried : Tried pool error calls mgr next)
    (fails : error ≠ 0) (alsoFails : other ≠ 0) : Tried pool other calls mgr next :=
  { tried with
    opened := fun none => absurd none alsoFails
    failed := fun _ => tried.failed fails }

theorem tried_reconnect {pool left calls error : Nat} (tried : Tried pool error calls mgr next)
    (fails : error ≠ 0) :
    Tried pool (reconnect settings answers pool left error next).1 (calls + left) mgr
      (reconnect settings answers pool left error next).2 := by
  induction left generalizing calls error next with
  | zero => exact tried
  | succ left ih =>
      have again := tried.trans fails (tried_callOpen settings answers pool next)
      rw [reconnect]
      split_ifs with refused
      · have refuses : (callOpen settings answers pool next).1 ≠ 0 := by
          rw [refused]
          decide
        exact (ih again refuses).weaken (by omega)
      · exact again.weaken (by omega)

theorem tried_connect (settings : Settings) (answers : Answers) (pool : Nat)
    (mgr : DatabaseMgr) :
    Tried pool (connect settings answers pool mgr).1 (settings.attempts.toNat + 1) mgr
      (connect settings answers pool mgr).2 := by
  have first := tried_callOpen settings answers pool mgr
  rw [connect]
  split_ifs with refused
  · have refuses : (callOpen settings answers pool mgr).1 ≠ 0 := by
      rw [refused]
      decide
    exact (tried_reconnect first refuses).weaken (by omega)
  · exact first.weaken (by omega)

theorem tried_ask {pool error calls : Nat} (tried : Tried pool error calls mgr next) :
    Tried pool error (calls + 1) mgr (ask answers next).2 :=
  { tried with
    calls := by
      have bound := tried.calls
      change next.calls + 1 ≤ _
      omega }

theorem tried_setUp {database : Database} {error calls : Nat}
    (tried : Tried database.pool error calls mgr next) :
    Tried database.pool (setUp settings answers database error next).1 (calls + 2) mgr
      (setUp settings answers database error next).2 := by
  rw [setUp]
  split_ifs with missing
  · have fails : error ≠ 0 := by
      rw [missing.1]
      decide
    have asked := @tried_ask answers _ _ _ _ _ tried
    dsimp only
    split_ifs with created opened
    · have again := asked.trans fails
        (tried_callOpen settings answers database.pool (ask answers next).2)
      rw [opened] at again
      exact again
    · have again := asked.trans fails
        (tried_callOpen settings answers database.pool (ask answers next).2)
      exact again.fail opened fails
    · exact asked.weaken (by omega)
  · exact tried.weaken (by omega)

/-- The calls of `Close` that an operation makes itself. -/
def OwnClosing (phase : Phase) (database : Database) (own : List Event) : Prop :=
  own = [] ∨ phase = .preparing ∧ own = [.closedItself database.pool]

/-- What an operation can do to the manager. -/
structure Ran (settings : Settings) (phase : Phase) (database : Database) (succeeded : Bool)
    (own : List Event) (mgr next : DatabaseMgr) : Prop where
  queues : next.queues = mgr.queues
  events : next.events = mgr.events ++ own ++ [.ran phase database.pool succeeded]
  ownClosing : OwnClosing phase database own
  noneOwn : succeeded = true → own = []
  closeStack : next.closeStack =
    if phase = .opening ∧ succeeded = true then database.pool :: mgr.closeStack
    else mgr.closeStack
  poolList : next.poolList =
    if phase = .preparing ∧ succeeded = true then mgr.poolList ++ [database.pool]
    else mgr.poolList
  others : ∀ other, other ≠ database.pool → next.pools other = mgr.pools other
  opened : phase = .opening → succeeded = true →
    (next.pools database.pool).asyncConnections ≠ [] ∧
      (next.pools database.pool).syncConnections ≠ []
  failed : own = [] → ¬ (phase = .opening ∧ succeeded = true) →
    (next.pools database.pool).syncConnections = (mgr.pools database.pool).syncConnections
  kept : own = [] → (mgr.pools database.pool).asyncConnections ≠ [] →
    (next.pools database.pool).asyncConnections ≠ []
  closed : own ≠ [] → next.pools database.pool = closePool (mgr.pools database.pool)
  calls : next.calls ≤ mgr.calls + (settings.attempts.toNat + 3)

/-- An operation that closes nothing and leaves the pools as they are. -/
theorem Ran.of_pools {phase : Phase} {database : Database} {outcome : Bool}
    (notOpened : ¬ (phase = .opening ∧ outcome = true)) (pools : next.pools = mgr.pools)
    (queues : next.queues = mgr.queues)
    (events : next.events = mgr.events ++ [.ran phase database.pool outcome])
    (closeStack : next.closeStack = mgr.closeStack)
    (poolList : next.poolList =
      if phase = .preparing ∧ outcome = true then mgr.poolList ++ [database.pool]
      else mgr.poolList)
    (calls : next.calls ≤ mgr.calls + (settings.attempts.toNat + 3)) :
    Ran settings phase database outcome [] mgr next where
  queues := queues
  events := by rw [events, List.append_nil]
  ownClosing := .inl rfl
  noneOwn _ := rfl
  closeStack := by rw [if_neg notOpened, closeStack]
  poolList := poolList
  others _ _ := by rw [pools]
  opened opening succeeds := absurd ⟨opening, succeeds⟩ notOpened
  failed _ _ := by rw [pools]
  kept _ := by rw [pools]; exact id
  closed closes := absurd rfl closes
  calls := calls

theorem ran_opening (settings : Settings) (answers : Answers) (database : Database)
    (mgr : DatabaseMgr) :
    Ran settings .opening database (predicate settings answers .opening database mgr).1 [] mgr
      (predicate settings answers .opening database mgr).2 := by
  rw [predicate]
  dsimp only
  rw [openDatabase]
  split_ifs with specified
  · have tried := @tried_setUp settings answers _ _ database _ _
      (tried_connect settings answers database.pool mgr)
    dsimp only
    split_ifs with opened
    · exact
      { queues := tried.queues
        events := by rw [List.append_nil]; exact congrArg (· ++ _) tried.events
        ownClosing := .inl rfl
        noneOwn := fun _ => rfl
        closeStack := by
          rw [if_pos ⟨rfl, rfl⟩]
          exact congrArg _ tried.closeStack
        poolList := tried.poolList
        others := tried.others
        opened := fun _ _ => tried.opened opened
        failed := fun _ fails => absurd ⟨rfl, rfl⟩ fails
        kept := fun _ => tried.kept
        closed := fun closes => absurd rfl closes
        calls := tried.calls }
    · exact
      { queues := tried.queues
        events := by rw [List.append_nil]; exact congrArg (· ++ _) tried.events
        ownClosing := .inl rfl
        noneOwn := fun _ => rfl
        closeStack := tried.closeStack
        poolList := tried.poolList
        others := tried.others
        opened := nofun
        failed := fun _ _ => tried.failed opened
        kept := fun _ => tried.kept
        closed := fun closes => absurd rfl closes
        calls := tried.calls }
  · exact .of_pools (by simp) rfl rfl rfl rfl rfl (Nat.le_add_right _ _)

theorem ran_preparing (settings : Settings) (answers : Answers) (database : Database)
    (mgr : DatabaseMgr) :
    ∃ own, Ran settings .preparing database
      (predicate settings answers .preparing database mgr).1 own mgr
      (predicate settings answers .preparing database mgr).2 := by
  have bound : mgr.calls + 1 ≤ mgr.calls + (settings.attempts.toNat + 3) := by omega
  rw [predicate]
  dsimp only
  rw [prepareDatabase]
  cases prepareStatements (preparations answers database.pool mgr) with
  | prepared => exact ⟨[], .of_pools (by simp) rfl rfl rfl rfl rfl bound⟩
  | locked => exact ⟨[], .of_pools (by simp) rfl rfl rfl rfl rfl bound⟩
  | failed =>
      refine ⟨[.closedItself database.pool], ?_⟩
      exact
      { queues := rfl
        events := rfl
        ownClosing := .inr ⟨rfl, rfl⟩
        noneOwn := nofun
        closeStack := rfl
        poolList := rfl
        others := fun _ differs => Function.update_of_ne differs _ _
        opened := nofun
        failed := fun none => absurd none (List.cons_ne_nil _ _)
        kept := fun none => absurd none (List.cons_ne_nil _ _)
        closed := fun _ => Function.update_self _ _ _
        calls := bound }

theorem ran_predicate (settings : Settings) (answers : Answers) (phase : Phase)
    (database : Database) (mgr : DatabaseMgr) :
    ∃ own, Ran settings phase database (predicate settings answers phase database mgr).1 own mgr
      (predicate settings answers phase database mgr).2 := by
  have bound : mgr.calls + 1 ≤ mgr.calls + (settings.attempts.toNat + 3) := by omega
  cases phase with
  | opening => exact ⟨[], ran_opening settings answers database mgr⟩
  | populating => exact ⟨[], .of_pools (by simp) rfl rfl rfl rfl rfl bound⟩
  | updating => exact ⟨[], .of_pools (by simp) rfl rfl rfl rfl rfl bound⟩
  | preparing => exact ran_preparing settings answers database mgr

theorem closePool_lists (pool : DatabaseWorkerPool) :
    (closePool pool).asyncConnections = [] ∧ (closePool pool).syncConnections = [] := by
  rw [closePool]
  split_ifs with empty
  · simpa using empty
  · exact ⟨rfl, rfl⟩

theorem closePool_closePool (pool : DatabaseWorkerPool) :
    closePool (closePool pool) = closePool pool := by
  obtain ⟨noAsync, noSync⟩ := closePool_lists pool
  conv_lhs => rw [closePool]
  rw [noAsync, noSync]
  rfl

/-- All pools on the stack are closed, from its top. -/
structure Closed (stack : List Nat) (mgr next : DatabaseMgr) : Prop where
  queues : next.queues = mgr.queues
  poolList : next.poolList = mgr.poolList
  calls : next.calls = mgr.calls
  events : next.events = mgr.events ++ stack.map Event.closed
  pools : ∀ pool, next.pools pool =
    if pool ∈ stack then closePool (mgr.pools pool) else mgr.pools pool

theorem closed_foldl (stack : List Nat) (mgr : DatabaseMgr) :
    Closed stack mgr (stack.foldl (callClose .closed) mgr) := by
  induction stack generalizing mgr with
  | nil => exact ⟨rfl, rfl, rfl, (List.append_nil _).symm, fun _ => rfl⟩
  | cons top stack ih =>
      have rest := ih (mgr.callClose .closed top)
      refine ⟨rest.queues, rest.poolList, rest.calls, ?_, ?_⟩
      · exact rest.events.trans (List.append_assoc _ _ _)
      · intro pool
        refine (rest.pools pool).trans ?_
        by_cases isTop : pool = top
        · subst isTop
          have changed : (mgr.callClose .closed pool).pools pool = closePool (mgr.pools pool) :=
            Function.update_self _ _ _
          rw [changed, closePool_closePool, ite_self, if_pos List.mem_cons_self]
        · have same : (mgr.callClose .closed top).pools pool = mgr.pools pool :=
            Function.update_of_ne isTop _ _
          simp only [same, List.mem_cons, isTop, false_or]

theorem closed_closeAllConnections (mgr : DatabaseMgr) :
    Closed mgr.closeStack mgr mgr.closeAllConnections :=
  { closed_foldl mgr.closeStack mgr with }

/-- The stack against what has happened: it has every pool that is to be closed. -/
structure Covered (mgr : DatabaseMgr) : Prop where
  balance : ∀ pool, mgr.events.count (.ran .opening pool true) =
    mgr.events.count (.closed pool) + mgr.closeStack.count pool
  ownClosings : ∀ pool, mgr.events.count (.closedItself pool) ≤
    mgr.events.count (.ran .preparing pool false)
  covered : ∀ pool, (mgr.pools pool).syncConnections ≠ [] → pool ∈ mgr.closeStack

/-- The pools on the stack are open. -/
structure Coherent (mgr : DatabaseMgr) : Prop extends Covered mgr where
  connected : ∀ pool ∈ mgr.closeStack, (mgr.pools pool).syncConnections ≠ []
  alsoAsync : ∀ pool ∈ mgr.closeStack, (mgr.pools pool).asyncConnections ≠ []

theorem coherent_start : Coherent start :=
  { balance := fun _ => rfl
    ownClosings := fun _ => Nat.le_refl 0
    covered := fun _ some => absurd rfl some
    connected := nofun
    alsoAsync := nofun }

theorem Coherent.of_same (coherent : Coherent mgr) (events : next.events = mgr.events)
    (closeStack : next.closeStack = mgr.closeStack) (pools : next.pools = mgr.pools) :
    Coherent next := by
  refine ⟨⟨?_, ?_, ?_⟩, ?_, ?_⟩
  · rw [events, closeStack]
    exact coherent.balance
  · rw [events]
    exact coherent.ownClosings
  · rw [closeStack, pools]
    exact coherent.covered
  · rw [closeStack, pools]
    exact coherent.connected
  · rw [closeStack, pools]
    exact coherent.alsoAsync

section OneOperation

variable {phase : Phase} {database : Database} {outcome : Bool} {own : List Event}

theorem OwnClosing.count_eq_zero (closing : OwnClosing phase database own) {event : Event}
    (notOwn : ∀ pool, event ≠ .closedItself pool) : own.count event = 0 := by
  rcases closing with rfl | ⟨-, rfl⟩
  · rfl
  · rw [List.count_singleton]
    simpa using (notOwn database.pool).symm

theorem Ran.balance (ran : Ran settings phase database outcome own mgr next) (pool : Nat)
    (balance : mgr.events.count (.ran .opening pool true) =
      mgr.events.count (.closed pool) + mgr.closeStack.count pool) :
    next.events.count (.ran .opening pool true) =
      next.events.count (.closed pool) + next.closeStack.count pool := by
  have noOpening : own.count (.ran .opening pool true) = 0 := ran.ownClosing.count_eq_zero nofun
  have noClosing : own.count (.closed pool) = 0 := ran.ownClosing.count_eq_zero nofun
  rw [ran.events, ran.closeStack]
  simp only [List.count_append, noOpening, noClosing]
  by_cases opens : phase = .opening ∧ outcome = true
  · obtain ⟨rfl, rfl⟩ := opens
    by_cases same : database.pool = pool
    · simp [same] at balance ⊢
      omega
    · simp [same] at balance ⊢
      omega
  · have notOpened : ¬ (phase = .opening ∧ database.pool = pool ∧ outcome = true) :=
      fun all => opens ⟨all.1, all.2.2⟩
    rw [if_neg opens]
    simpa [notOpened] using balance

theorem Ran.ownClosings (ran : Ran settings phase database outcome own mgr next) (pool : Nat)
    (bounded : mgr.events.count (.closedItself pool) ≤
      mgr.events.count (.ran .preparing pool false)) :
    next.events.count (.closedItself pool) ≤ next.events.count (.ran .preparing pool false) := by
  rw [ran.events]
  simp only [List.count_append]
  rcases ran.ownClosing with rfl | ⟨rfl, rfl⟩
  · simp
    omega
  · have fails : outcome = false := by
      cases outcome with
      | false => rfl
      | true => exact absurd (ran.noneOwn rfl) (List.cons_ne_nil _ _)
    subst fails
    by_cases same : database.pool = pool
    · simp [same]
      omega
    · simp [same]
      omega

theorem Ran.covered (ran : Ran settings phase database outcome own mgr next)
    (coherent : Coherent mgr) (pool : Nat) (some : (next.pools pool).syncConnections ≠ []) :
    pool ∈ next.closeStack := by
  have onStack (member : pool ∈ mgr.closeStack) : pool ∈ next.closeStack := by
    rw [ran.closeStack]
    split_ifs
    · exact List.mem_cons_of_mem _ member
    · exact member
  by_cases same : pool = database.pool
  · subst same
    by_cases opens : phase = .opening ∧ outcome = true
    · rw [ran.closeStack, if_pos opens]
      exact List.mem_cons_self
    · by_cases none : own = []
      · rw [ran.failed none opens] at some
        exact onStack (coherent.covered _ some)
      · rw [ran.closed none] at some
        exact absurd (closePool_lists _).2 some
  · rw [ran.others pool same] at some
    exact onStack (coherent.covered _ some)

theorem Coherent.covered_ran (coherent : Coherent mgr)
    (ran : Ran settings phase database outcome own mgr next) : Covered next where
  balance pool := ran.balance pool (coherent.balance pool)
  ownClosings pool := ran.ownClosings pool (coherent.ownClosings pool)
  covered := ran.covered coherent

theorem Coherent.ran (coherent : Coherent mgr)
    (ran : Ran settings phase database outcome [] mgr next) : Coherent next := by
  have onStack {pool : Nat} (member : pool ∈ next.closeStack)
      (notOpened : ¬ (phase = .opening ∧ outcome = true ∧ pool = database.pool)) :
      pool ∈ mgr.closeStack := by
    rw [ran.closeStack] at member
    split_ifs at member with opens
    · rcases List.mem_cons.mp member with rfl | member
      · exact absurd ⟨opens.1, opens.2, rfl⟩ notOpened
      · exact member
    · exact member
  refine { coherent.covered_ran ran with connected := ?_, alsoAsync := ?_ }
  · intro pool member
    by_cases opened : phase = .opening ∧ outcome = true ∧ pool = database.pool
    · obtain ⟨opening, succeeds, rfl⟩ := opened
      exact (ran.opened opening succeeds).2
    · have before := coherent.connected pool (onStack member opened)
      by_cases same : pool = database.pool
      · subst same
        rwa [ran.failed rfl fun opens => opened ⟨opens.1, opens.2, rfl⟩]
      · rwa [ran.others pool same]
  · intro pool member
    by_cases opened : phase = .opening ∧ outcome = true ∧ pool = database.pool
    · obtain ⟨opening, succeeds, rfl⟩ := opened
      exact (ran.opened opening succeeds).1
    · have before := coherent.alsoAsync pool (onStack member opened)
      by_cases same : pool = database.pool
      · subst same
        exact ran.kept rfl before
      · rwa [ran.others pool same]

end OneOperation

theorem Covered.close (covered : Covered mgr) (closed : Closed mgr.closeStack mgr next)
    (stack : next.closeStack = []) :
    Coherent next ∧ ∀ pool, (next.pools pool).syncConnections = [] := by
  have noSync (pool : Nat) : (next.pools pool).syncConnections = [] := by
    rw [closed.pools]
    split_ifs with member
    · exact (closePool_lists _).2
    · exact not_not.mp (fun some => member (covered.covered pool some))
  have noOther (event : Event) (notClosed : ∀ pool, event ≠ .closed pool) :
      (mgr.closeStack.map Event.closed).count event = 0 := by
    rw [List.count_eq_zero, List.mem_map]
    rintro ⟨pool, -, rfl⟩
    exact notClosed pool rfl
  refine ⟨⟨⟨?_, ?_, ?_⟩, ?_, ?_⟩, noSync⟩
  · intro pool
    rw [closed.events, stack, List.count_append, List.count_append, covered.balance pool,
      noOther (.ran .opening pool true) nofun]
    have closings : (mgr.closeStack.map Event.closed).count (.closed pool) =
        mgr.closeStack.count pool :=
      List.count_map_of_injective _ _ (fun _ _ same => Event.closed.inj same) _
    rw [closings]
    rfl
  · intro pool
    rw [closed.events, List.count_append, List.count_append,
      noOther (.closedItself pool) nofun, noOther (.ran .preparing pool false) nofun]
    exact covered.ownClosings pool
  · exact fun pool some => absurd (noSync pool) some
  · rw [stack]
    exact nofun
  · rw [stack]
    exact nofun

/-- The operations that are still in the queues, in the order of loading. -/
def steps (mgr : DatabaseMgr) (phases : List Phase) : List (Phase × Database) :=
  phases.flatMap fun phase => (mgr.queues phase).map (Prod.mk phase)

def openedBy (done : List (Phase × Database)) : List Nat :=
  (done.filter fun step => step.1 = .opening).map fun step => step.2.pool

def preparedBy (done : List (Phase × Database)) : List Nat :=
  (done.filter fun step => step.1 = .preparing).map fun step => step.2.pool

def succeeded (step : Phase × Database) : Event :=
  .ran step.1 step.2.pool true

/-- Some operations have been run, all with success. -/
structure Done (settings : Settings) (done : List (Phase × Database)) (mgr next : DatabaseMgr) :
    Prop where
  coherent : Coherent mgr → Coherent next
  events : next.events = mgr.events ++ done.map succeeded
  closeStack : next.closeStack = (openedBy done).reverse ++ mgr.closeStack
  poolList : next.poolList = mgr.poolList ++ preparedBy done
  calls : next.calls ≤ mgr.calls + done.length * (settings.attempts.toNat + 3)

/-- An operation has failed after some others, and the pools are closed. -/
structure Failed (settings : Settings) (done : List (Phase × Database)) (phase : Phase)
    (database : Database) (mgr next : DatabaseMgr) : Prop where
  coherent : Coherent mgr → Coherent next
  closeStack : next.closeStack = []
  events : ∃ own, OwnClosing phase database own ∧
    next.events = mgr.events ++ done.map succeeded ++ own ++ [.ran phase database.pool false] ++
      ((openedBy done).reverse ++ mgr.closeStack).map .closed
  calls : next.calls ≤ mgr.calls + (done.length + 1) * (settings.attempts.toNat + 3)

theorem Done.nil (same : next.events = mgr.events) (closeStack : next.closeStack = mgr.closeStack)
    (poolList : next.poolList = mgr.poolList) (pools : next.pools = mgr.pools)
    (calls : next.calls = mgr.calls) : Done settings [] mgr next where
  coherent coherent := coherent.of_same same closeStack pools
  events := same.trans (List.append_nil _).symm
  closeStack := closeStack
  poolList := poolList.trans (List.append_nil _).symm
  calls := Nat.le_trans (Nat.le_of_eq calls) (Nat.le_add_right _ _)

theorem Done.ran {phase : Phase} {database : Database}
    (ran : Ran settings phase database true [] mgr next) :
    Done settings [(phase, database)] mgr next where
  coherent coherent := coherent.ran ran
  events := by rw [ran.events, List.append_nil]; rfl
  closeStack := by
    rw [ran.closeStack]
    by_cases opening : phase = .opening <;> simp [openedBy, opening]
  poolList := by
    rw [ran.poolList]
    by_cases preparing : phase = .preparing <;> simp [preparedBy, preparing]
  calls := by
    have bound := ran.calls
    simpa using bound

theorem Done.append {first second : List (Phase × Database)} (done : Done settings first mgr next)
    (later : Done settings second next last) : Done settings (first ++ second) mgr last where
  coherent coherent := later.coherent (done.coherent coherent)
  events := by rw [later.events, done.events, List.map_append, List.append_assoc]
  closeStack := by
    rw [later.closeStack, done.closeStack]
    simp [openedBy]
  poolList := by
    rw [later.poolList, done.poolList]
    simp [preparedBy]
  calls := by
    have first := done.calls
    have second := later.calls
    rw [List.length_append, Nat.add_mul]
    omega

theorem Done.fail {first second : List (Phase × Database)} {phase : Phase} {database : Database}
    (done : Done settings first mgr next)
    (fails : Failed settings second phase database next last) :
    Failed settings (first ++ second) phase database mgr last where
  coherent coherent := fails.coherent (done.coherent coherent)
  closeStack := fails.closeStack
  events := by
    obtain ⟨own, closing, events⟩ := fails.events
    refine ⟨own, closing, ?_⟩
    rw [events, done.events, done.closeStack]
    simp [openedBy]
  calls := by
    have first := done.calls
    have second := fails.calls
    rw [List.length_append, Nat.add_assoc, Nat.add_mul]
    omega

theorem failed_predicate {phase : Phase} {database : Database} {rest : List Database}
    {own : List Event} (ran : Ran settings phase database false own mgr next) :
    Failed settings [] phase database mgr
      { next.closeAllConnections with
        queues := Function.update next.closeAllConnections.queues phase rest } where
  coherent coherent := by
    have closed := (coherent.covered_ran ran).close (closed_closeAllConnections next) rfl
    exact closed.1.of_same rfl rfl rfl
  closeStack := rfl
  events := by
    have stack := ran.closeStack
    rw [if_neg (by simp)] at stack
    have closed := closed_closeAllConnections next
    refine ⟨own, ran.ownClosing, closed.events.trans ?_⟩
    rw [ran.events, stack]
    simp [openedBy]
  calls := by
    have closed := closed_closeAllConnections next
    have bound := ran.calls
    refine Nat.le_trans (Nat.le_of_eq closed.calls) ?_
    simpa using bound

/-- What working off one queue can come to. -/
theorem process_cases (settings : Settings) (answers : Answers) (phase : Phase)
    (queue : List Database) (mgr : DatabaseMgr) :
    let result := process settings answers phase queue mgr
    (result.1 = true ∧ Done settings (queue.map (Prod.mk phase)) mgr result.2 ∧
      result.2.queues = Function.update mgr.queues phase []) ∨
    ∃ before database after, queue = before ++ database :: after ∧ result.1 = false ∧
      Failed settings (before.map (Prod.mk phase)) phase database mgr result.2 ∧
      result.2.queues = Function.update mgr.queues phase (database :: after) := by
  induction queue generalizing mgr with
  | nil => exact .inl ⟨rfl, .nil rfl rfl rfl rfl rfl, rfl⟩
  | cons database rest ih =>
      obtain ⟨own, ran⟩ := ran_predicate settings answers phase database mgr
      simp only [process]
      cases outcome : (predicate settings answers phase database mgr).1 with
      | true =>
          rw [outcome] at ran
          obtain rfl := ran.noneOwn rfl
          simp only [if_true]
          rcases ih (predicate settings answers phase database mgr).2 with
            ⟨succeeds, done, queues⟩ | ⟨before, failing, after, split, fails, failed, queues⟩
          · refine .inl ⟨succeeds, (Done.ran ran).append done, ?_⟩
            rw [queues, ran.queues]
          · refine .inr ⟨database :: before, failing, after, by rw [split]; rfl, fails,
              (Done.ran ran).fail failed, ?_⟩
            rw [queues, ran.queues]
      | false =>
          rw [outcome] at ran
          refine .inr ⟨[], database, rest, rfl, rfl, failed_predicate ran, ?_⟩
          have closed := closed_closeAllConnections
            (predicate settings answers phase database mgr).2
          simp only [Bool.false_eq_true, if_false]
          rw [closed.queues, ran.queues]

theorem steps_of_notMem {phases : List Phase} {phase : Phase} (outside : phase ∉ phases)
    {queue : List Database} (queues : next.queues = Function.update mgr.queues phase queue) :
    next.steps phases = mgr.steps phases := by
  unfold steps
  apply List.flatMap_congr
  intro other member
  have differs : other ≠ phase := fun same => outside (same ▸ member)
  rw [queues, Function.update_of_ne differs]

/-- Working off several queues. -/
theorem loadPhases_cases (settings : Settings) (answers : Answers) {phases : List Phase}
    (distinct : phases.Nodup) (mgr : DatabaseMgr) :
    let result := loadPhases settings answers phases mgr
    (∀ other, other ∉ phases → result.2.queues other = mgr.queues other) ∧
    ((result.1 = true ∧ Done settings (mgr.steps phases) mgr result.2 ∧
      result.2.steps phases = []) ∨
    ∃ before phase database after, mgr.steps phases = before ++ (phase, database) :: after ∧
      result.1 = false ∧ Failed settings before phase database mgr result.2 ∧
      result.2.steps phases = (phase, database) :: after) := by
  induction phases generalizing mgr with
  | nil => exact ⟨fun _ _ => rfl, .inl ⟨rfl, .nil rfl rfl rfl rfl rfl, rfl⟩⟩
  | cons phase phases ih =>
      obtain ⟨outside, distinct⟩ := List.nodup_cons.mp distinct
      simp only [loadPhases]
      have stepsOf (some : DatabaseMgr) :
          some.steps (phase :: phases) =
            (some.queues phase).map (Prod.mk phase) ++ some.steps phases := rfl
      rcases process_cases settings answers phase (mgr.queues phase) mgr with
        ⟨succeeds, done, queues⟩ | ⟨before, database, after, split, fails, failed, queues⟩
      · rw [if_pos succeeds]
        have laterSteps := steps_of_notMem outside queues
        obtain ⟨others, rest⟩ :=
          ih distinct (process settings answers phase (mgr.queues phase) mgr).2
        have emptied := others phase outside
        rw [queues, Function.update_self] at emptied
        refine ⟨?_, ?_⟩
        · intro other notIn
          rw [List.mem_cons, not_or] at notIn
          rw [others other notIn.2, queues, Function.update_of_ne notIn.1]
        · rcases rest with ⟨loaded, more, left⟩ | ⟨before, last, database, after, split, fails,
            failed, left⟩
          · refine .inl ⟨loaded, ?_, ?_⟩
            · rw [laterSteps] at more
              exact done.append more
            · rw [stepsOf, emptied, left]
              rfl
          · refine .inr ⟨(mgr.queues phase).map (Prod.mk phase) ++ before, last, database, after,
              ?_, fails, done.fail failed, ?_⟩
            · rw [stepsOf, ← laterSteps, split, List.append_assoc]
            · rw [stepsOf, emptied, left]
              rfl
      · have notLoaded : ¬ (process settings answers phase (mgr.queues phase) mgr).1 = true := by
          rw [fails]
          exact Bool.false_ne_true
        rw [if_neg notLoaded]
        refine ⟨?_, .inr ⟨before.map (Prod.mk phase), phase, database,
          after.map (Prod.mk phase) ++ mgr.steps phases, ?_, rfl, failed, ?_⟩⟩
        · intro other notIn
          rw [List.mem_cons, not_or] at notIn
          rw [queues, Function.update_of_ne notIn.1]
        · rw [stepsOf, split]
          simp
        · rw [stepsOf, steps_of_notMem outside queues, queues, Function.update_self]
          rfl

def allPhases : List Phase := [.opening, .populating, .updating, .preparing]

/-- `Load` from any state of the manager: it runs the operations that are left in their order.
If all succeed, the opened pools are on the stack and the prepared ones are in the list of
pools.  If one fails, nothing is run after it, `Close` is called for the pools on the stack,
the last opened first, and the operations from the failed one on are left.  No pool is closed
before that, but for the pool of a failed preparation, which may have closed itself.  The
number of calls is bounded. -/
theorem load_runs_in_order (settings : Settings) (answers : Answers) (mgr : DatabaseMgr) :
    let result := mgr.load settings answers
    (result.1 = true ∧ result.2.steps allPhases = [] ∧
      result.2.events = mgr.events ++ (mgr.steps allPhases).map succeeded ∧
      result.2.closeStack = (openedBy (mgr.steps allPhases)).reverse ++ mgr.closeStack ∧
      result.2.poolList = mgr.poolList ++ preparedBy (mgr.steps allPhases) ∧
      result.2.calls ≤
        mgr.calls + (mgr.steps allPhases).length * (settings.attempts.toNat + 3)) ∨
    (result.1 = false ∧ result.2.closeStack = [] ∧
      ∃ before phase database after own,
        mgr.steps allPhases = before ++ (phase, database) :: after ∧
        result.2.steps allPhases = (phase, database) :: after ∧
        (own = [] ∨ phase = .preparing ∧ own = [.closedItself database.pool]) ∧
        result.2.events = mgr.events ++ before.map succeeded ++ own ++
          [.ran phase database.pool false] ++
          ((openedBy before).reverse ++ mgr.closeStack).map .closed ∧
        result.2.calls ≤ mgr.calls + (before.length + 1) * (settings.attempts.toNat + 3)) := by
  rcases (loadPhases_cases settings answers (by decide : allPhases.Nodup) mgr).2 with
    ⟨loaded, done, left⟩ | ⟨before, phase, database, after, split, fails, failed, left⟩
  · exact .inl ⟨loaded, left, done.events, done.closeStack, done.poolList, done.calls⟩
  · obtain ⟨own, closing, events⟩ := failed.events
    exact .inr ⟨fails, failed.closeStack, before, phase, database, after, own, split, left,
      closing, events, failed.calls⟩

theorem coherent_load (settings : Settings) (answers : Answers) (coherent : Coherent mgr) :
    Coherent (mgr.load settings answers).2 := by
  rcases (loadPhases_cases settings answers (by decide : allPhases.Nodup) mgr).2 with
    ⟨-, done, -⟩ | ⟨before, phase, database, after, -, -, failed, -⟩
  · exact done.coherent coherent
  · exact failed.coherent coherent

theorem coherent_step {label : Label} (coherent : Coherent mgr)
    (stepped : step settings answers mgr label = some next) : Coherent next := by
  cases label with
  | addDatabase pool poolType specified =>
      cases stepped
      refine coherent.of_same ?_ ?_ ?_
      · unfold addDatabase
        dsimp only
        split_ifs <;> rfl
      · unfold addDatabase
        dsimp only
        split_ifs <;> rfl
      · unfold addDatabase
        dsimp only
        split_ifs <;> rfl
  | load =>
      rw [step] at stepped
      split_ifs at stepped
      cases stepped
      exact coherent_load settings answers coherent
  | closeAllConnections =>
      cases stepped
      exact (coherent.close (closed_closeAllConnections mgr) rfl).1

/-- In every run of the program a pool has been opened with success as often as the manager has
called its `Close` or as it is on the stack, and it has closed itself at most once for each
failed preparation.  The pools on the stack are those with a synchronous connection, and they
have an asynchronous one as well.  After a failed `Load` and after `CloseAllConnections` no
pool has a synchronous connection, and for each opening the manager has called `Close` exactly
once. -/
theorem openings_matched {labels : List Label}
    (reached : exec (step settings answers) start labels = some mgr) :
    Coherent mgr ∧
      ∀ last, (((mgr.load settings answers).1 = false ∧ last = (mgr.load settings answers).2) ∨
          last = mgr.closeAllConnections) → ∀ pool,
        (last.pools pool).syncConnections = [] ∧
          last.events.count (.ran .opening pool true) = last.events.count (.closed pool) ∧
          last.events.count (.closedItself pool) ≤
            last.events.count (.ran .preparing pool false) := by
  have coherent : Coherent mgr :=
    exec_invariant_of_step (fun kept stepped => coherent_step kept stepped) reached coherent_start
  refine ⟨coherent, ?_⟩
  have closing (last : DatabaseMgr) (kept : Coherent last) (none : last.closeStack = [])
      (pool : Nat) : (last.pools pool).syncConnections = [] ∧
        last.events.count (.ran .opening pool true) = last.events.count (.closed pool) ∧
        last.events.count (.closedItself pool) ≤
          last.events.count (.ran .preparing pool false) := by
    refine ⟨?_, ?_, kept.ownClosings pool⟩
    · by_contra some
      have member := kept.covered pool some
      rw [none] at member
      cases member
    · rw [kept.balance pool, none]
      rfl
  rintro last (⟨fails, rfl⟩ | rfl)
  · rcases (loadPhases_cases settings answers (by decide : allPhases.Nodup) mgr).2 with
      ⟨loaded, -, -⟩ | ⟨before, phase, database, after, -, -, failed, -⟩
    · exact absurd (fails.symm.trans loaded) nofun
    · exact closing _ (failed.coherent coherent) failed.closeStack
  · exact closing _ (coherent.close (closed_closeAllConnections mgr) rfl).1 rfl

end DatabaseMgr

def exampleSettings : Settings := ⟨⟨5⟩, 3, true, 20⟩

def twoDatabases : List Label :=
  [.addDatabase 0 1 true, .addDatabase 1 2 true]

/-- The second connection to the first server is refused once, and the synchronous connection
of the second database does not prepare its statements. -/
def preparesOne : Answers where
  attempt call :=
    if call = 0 then ⟨.connected 9, .failed ⟨2002, by decide⟩⟩ else ⟨.connected 9, .connected 9⟩
  succeeds _ := true
  prepares call connection := if call = 8 ∧ connection = 1 then .failed else .prepared

theorem openings_matched_after_failure :
    ∃ mgr : DatabaseMgr, exec (step exampleSettings preparesOne) start twoDatabases = some mgr ∧
      (mgr.load exampleSettings preparesOne).2.events =
        [.ran .opening 0 true, .ran .opening 1 true, .ran .populating 0 true,
          .ran .populating 1 true, .ran .updating 0 true, .ran .updating 1 true,
          .ran .preparing 0 true, .closedItself 1, .ran .preparing 1 false, .closed 1,
          .closed 0] ∧
      ((mgr.load exampleSettings preparesOne).2.pools 0).syncConnections = [] := by
  refine ⟨_, rfl, by decide, ?_⟩
  have matched := @DatabaseMgr.openings_matched exampleSettings preparesOne _ twoDatabases rfl
  exact (matched.2 _ (.inl ⟨by decide, rfl⟩) 0).1

end DatabaseManager

end WarheadBot
