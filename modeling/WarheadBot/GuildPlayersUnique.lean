import Mathlib.Data.List.Nodup
import WarheadBot.GuardedRuns
import WarheadBot.GuildPlayers

/-!
# When a nickname is stored once

The table only refuses a second row of the same user, so the nicknames of a
guild are kept apart by the `SELECT` of a join.  Between a `SELECT` that finds
nothing and the `INSERT` that follows it a join has claimed the nickname
without anybody seeing it.  Rows and such joins are treated alike here: as long
as a nickname is claimed by one user only, it is stored at most once.
-/

namespace WarheadBot

namespace GuildPlayers

open CheckRoles (Snowflake)
open GuardedRuns

def Row.key (row : Row) : Snowflake × String := (row.guildId, row.nickname)

def UniqueNicknames (table : List Row) : Prop := (table.map Row.key).Nodup

instance (table : List Row) : Decidable (UniqueNicknames table) :=
  inferInstanceAs (Decidable (List.Nodup _))

/-- A nickname of a guild and the user that has it or is about to. -/
structure Claim where
  guildId : Snowflake
  nickname : String
  userId : Snowflake
  deriving DecidableEq, Repr

def Row.claim (row : Row) : Claim := ⟨row.guildId, row.nickname, row.userId⟩

def Join.claim (join : Join) : Claim := ⟨join.guildId, join.saveNickName, join.userId⟩

/-- A join has claimed its nickname once its `SELECT` has found nothing. -/
def Request.claims : Request → List Claim
  | .selected join false => [join.claim]
  | .inserting row => [row.claim]
  | _ => []

def State.claims (state : State) : List Claim :=
  state.table.map Row.claim ++ state.requests.flatMap Request.claims

def Claim.Rivals (first second : Claim) : Prop :=
  first.guildId = second.guildId ∧ first.nickname = second.nickname ∧
    first.userId ≠ second.userId

instance (first second : Claim) : Decidable (first.Rivals second) :=
  inferInstanceAs (Decidable (_ ∧ _))

/-- The join whose `SELECT` returns no row in this step, because there is none
or because the statement fails. -/
def emptySelect (state : State) : Label → Option Join
  | .move index (.execute succeeds) =>
      match state.requests[index]? with
      | some (.selecting join) =>
          if succeeds && state.table.any (Row.isNamed join.guildId join.saveNickName) then none
          else some join
      | _ => none
  | _ => none

/-- When a `SELECT` returns no row, no other user has the nickname or has
claimed it. -/
def Unclaimed (state : State) (label : Label) : Prop :=
  ∀ join ∈ emptySelect state label, ∀ claim ∈ state.claims, ¬ claim.Rivals join.claim

instance (state : State) (label : Label) : Decidable (Unclaimed state label) :=
  inferInstanceAs (Decidable (∀ join ∈ emptySelect state label, _))

structure OneClaimant (state : State) : Prop where
  primaryKey : (state.table.map Row.claim).Nodup
  alone : ∀ first ∈ state.claims, ∀ second ∈ state.claims, ¬ first.Rivals second

theorem nodup_claims_of_unique {table : List Row} (unique : UniqueNicknames table) :
    (table.map Row.claim).Nodup := by
  apply List.Nodup.of_map fun claim : Claim => (claim.guildId, claim.nickname)
  rw [List.map_map]
  exact unique

theorem OneClaimant.uniqueNicknames {state : State} (one : OneClaimant state) :
    UniqueNicknames state.table := by
  have distinct := List.Nodup.of_map Row.claim one.primaryKey
  refine distinct.map_on ?_
  intro first firstStored second secondStored sameKey
  rw [Row.key, Row.key, Prod.mk.injEq] at sameKey
  have claimed : ∀ row ∈ state.table, row.claim ∈ state.claims := by
    intro row stored
    exact List.mem_append_left _ (List.mem_map_of_mem stored)
  have sameUser : first.userId = second.userId := by
    by_contra differs
    exact one.alone _ (claimed first firstStored) _ (claimed second secondStored)
      ⟨sameKey.1, sameKey.2, differs⟩
  have sameClaim : first.claim = second.claim := by
    rw [Row.claim, Row.claim, sameKey.1, sameKey.2, sameUser]
  exact List.inj_on_of_nodup_map one.primaryKey firstStored secondStored sameClaim

theorem oneClaimant_start {table : List Row} (unique : UniqueNicknames table) :
    OneClaimant (State.start table) where
  primaryKey := nodup_claims_of_unique unique
  alone := by
    intro first firstClaims second secondClaims rivals
    simp only [State.claims, State.start, List.flatMap_nil, List.append_nil,
      List.mem_map] at firstClaims secondClaims
    obtain ⟨row, rowStored, rfl⟩ := firstClaims
    obtain ⟨other, otherStored, rfl⟩ := secondClaims
    have sameRow : row = other := by
      apply List.inj_on_of_nodup_map unique rowStored otherStored
      rw [Row.key, Row.key, Prod.mk.injEq]
      exact ⟨rivals.1, rivals.2.1⟩
    exact rivals.2.2 (congrArg Row.userId sameRow)

theorem samePrimaryKey_iff {row other : Row} :
    row.samePrimaryKey other = true ↔ row.claim = other.claim := by
  simp only [Row.samePrimaryKey, Row.claim, Bool.and_eq_true, decide_eq_true_eq,
    Claim.mk.injEq]
  tauto

theorem mem_insertRow {row other : Row} {table : List Row}
    (stored : other ∈ insertRow row table) : other ∈ table ∨ other = row := by
  unfold insertRow at stored
  split at stored
  · exact Or.inl stored
  · simpa using stored

theorem nodup_insertRow {table : List Row} (row : Row)
    (distinct : (table.map Row.claim).Nodup) :
    ((insertRow row table).map Row.claim).Nodup := by
  unfold insertRow
  split
  · exact distinct
  · rename_i absent
    have fresh : row.claim ∉ table.map Row.claim := by
      intro present
      obtain ⟨other, stored, sameClaim⟩ := List.mem_map.mp present
      exact absent (List.any_eq_true.mpr ⟨other, stored, samePrimaryKey_iff.mpr sameClaim.symm⟩)
    rw [List.map_append, List.map_cons, List.map_nil]
    exact distinct.append (List.nodup_singleton _) (List.disjoint_singleton.mpr fresh)

/-- How a request can proceed. -/
inductive Request.Proceeds (table : List Row) : Move → Request → List Row → Request → Prop
  | select (join : Join) (succeeds : Bool) :
      Proceeds table (.execute succeeds) (.selecting join) table
        (.selected join (succeeds && table.any (Row.isNamed join.guildId join.saveNickName)))
  | reject (join : Join) : Proceeds table .callback (.selected join true) table .finished
  | clear (join : Join) :
      Proceeds table .callback (.selected join false) table
        (.inserting ⟨join.guildId, join.userId, join.saveNickName, join.ilvl, join.gameSpec⟩)
  | insert (row : Row) :
      Proceeds table (.execute true) (.inserting row) (insertRow row table) .finished
  | list (removal : Removal) (move : Move) (rows : List Row) :
      Proceeds table move (.listing removal) table (.listed removal rows)
  | choose (removal : Removal) (rows : List Row) (nickname : String) :
      Proceeds table .callback (.listed removal rows) table
        (.deleting removal.guildId nickname)
  | ignore (removal : Removal) (rows : List Row) :
      Proceeds table .callback (.listed removal rows) table .finished
  | delete (guildId : Snowflake) (nickname : String) :
      Proceeds table (.execute true) (.deleting guildId nickname)
        (deleteRows guildId nickname table) .finished
  | failed (request : Request) : Proceeds table (.execute false) request table .finished

theorem Request.proceeds_of_move {move : Move} {table next : List Row}
    {request changed : Request}
    (moved : request.move move table = some (next, changed)) :
    Proceeds table move request next changed := by
  cases request with
  | selecting join =>
      cases move with
      | execute succeeds =>
          cases moved
          exact .select join succeeds
      | answer rows => cases moved
      | callback => cases moved
  | selected join result =>
      cases move with
      | execute succeeds => cases moved
      | answer rows => cases moved
      | callback =>
          cases result with
          | false =>
              cases moved
              exact .clear join
          | true =>
              cases moved
              exact .reject join
  | inserting row =>
      cases move with
      | execute succeeds =>
          cases succeeds with
          | false =>
              cases moved
              exact .failed _
          | true =>
              cases moved
              exact .insert row
      | answer rows => cases moved
      | callback => cases moved
  | listing removal =>
      cases move with
      | execute succeeds =>
          cases succeeds with
          | false =>
              cases moved
              exact .list removal _ []
          | true => cases moved
      | answer rows =>
          simp only [Request.move] at moved
          split_ifs at moved
          cases moved
          exact .list removal _ rows
      | callback => cases moved
  | listed removal result =>
      cases move with
      | execute succeeds => cases moved
      | answer rows => cases moved
      | callback =>
          simp only [Request.move] at moved
          split at moved
          · cases moved
            exact .choose removal result _
          · cases moved
            exact .ignore removal result
  | deleting guildId nickname =>
      cases move with
      | execute succeeds =>
          cases succeeds with
          | false =>
              cases moved
              exact .failed _
          | true =>
              cases moved
              exact .delete guildId nickname
      | answer rows => cases moved
      | callback => cases moved
  | finished => cases move <;> cases moved

theorem Request.move_primaryKey {move : Move} {table next : List Row}
    {request changed : Request} (moved : request.move move table = some (next, changed))
    (distinct : (table.map Row.claim).Nodup) : (next.map Row.claim).Nodup := by
  cases proceeds_of_move moved with
  | insert row => exact nodup_insertRow row distinct
  | delete guildId nickname => exact distinct.sublist (List.filter_sublist.map _)
  | _ => exact distinct

/-- A row comes from the join that inserts it. -/
theorem Request.move_table {move : Move} {table next : List Row} {request changed : Request}
    (moved : request.move move table = some (next, changed)) {row : Row} (stored : row ∈ next) :
    row ∈ table ∨ row.claim ∈ request.claims := by
  cases proceeds_of_move moved with
  | insert inserted =>
      rcases mem_insertRow stored with old | rfl
      · exact Or.inl old
      · exact Or.inr (List.mem_singleton_self _)
  | delete guildId nickname => exact Or.inl (List.mem_filter.mp stored).1
  | _ => exact Or.inl stored

/-- A claim is new only when a `SELECT` has found nothing. -/
theorem Request.move_claims {move : Move} {table next : List Row} {request changed : Request}
    (moved : request.move move table = some (next, changed)) {claim : Claim}
    (claimed : claim ∈ changed.claims) :
    claim ∈ request.claims ∨ ∃ join succeeds, request = .selecting join ∧
      move = .execute succeeds ∧ claim = join.claim ∧
        (succeeds && table.any (Row.isNamed join.guildId join.saveNickName)) = false := by
  cases proceeds_of_move moved with
  | select join succeeds =>
      refine Or.inr ⟨join, succeeds, rfl, rfl, ?_⟩
      cases result : succeeds && table.any (Row.isNamed join.guildId join.saveNickName) with
      | true => simp [result, Request.claims] at claimed
      | false =>
          rw [result] at claimed
          exact ⟨List.mem_singleton.mp claimed, rfl⟩
  | clear join => exact Or.inl claimed
  | _ => simp [Request.claims] at claimed

theorem mem_claims_of_row {state : State} {row : Row} (stored : row ∈ state.table) :
    row.claim ∈ state.claims :=
  List.mem_append_left _ (List.mem_map_of_mem stored)

theorem mem_claims_of_request {state : State} {request : Request} {claim : Claim}
    (pending : request ∈ state.requests) (claimed : claim ∈ request.claims) :
    claim ∈ state.claims :=
  List.mem_append_right _ (List.mem_flatMap.mpr ⟨request, pending, claimed⟩)

theorem mem_claims_cases {state : State} {claim : Claim} (claimed : claim ∈ state.claims) :
    (∃ row ∈ state.table, row.claim = claim) ∨
      ∃ request ∈ state.requests, claim ∈ request.claims := by
  rcases List.mem_append.mp claimed with stored | pending
  · exact Or.inl (List.mem_map.mp stored)
  · exact Or.inr (List.mem_flatMap.mp pending)

theorem claims_append (state : State) {request : Request} (silent : request.claims = []) :
    State.claims { state with requests := state.requests ++ [request] } = state.claims := by
  simp [State.claims, silent]

/-- What a step claims was claimed before, unless the step is a `SELECT` that
returns no row. -/
theorem step_claims {state next : State} {label : Label} (moved : step state label = some next)
    {claim : Claim} (claimed : claim ∈ next.claims) :
    claim ∈ state.claims ∨ ∃ join, emptySelect state label = some join ∧ claim = join.claim := by
  cases label with
  | formSubmit event =>
      simp only [step] at moved
      split at moved
      · cases moved
        rw [claims_append state rfl] at claimed
        exact Or.inl claimed
      · cases moved
        exact Or.inl claimed
  | guildDel guildId nickname =>
      cases moved
      rw [claims_append state rfl] at claimed
      exact Or.inl claimed
  | move index move =>
      obtain ⟨⟨table, requests⟩, happened, rfl⟩ := Option.map_eq_some_iff.mp moved
      obtain ⟨before, request, changed, after, split, found, requestMoved, rfl⟩ :=
        Parties.moveAt_eq_some happened
      have pending : request ∈ state.requests := List.mem_of_getElem? found
      rcases mem_claims_cases claimed with ⟨row, stored, rfl⟩ | ⟨other, otherPending, isClaimed⟩
      · rcases Request.move_table requestMoved stored with old | inserted
        · exact Or.inl (mem_claims_of_row old)
        · exact Or.inl (mem_claims_of_request pending inserted)
      · rcases List.mem_append.mp otherPending with earlier | later
        · have old : other ∈ state.requests := by simp [split, earlier]
          exact Or.inl (mem_claims_of_request old isClaimed)
        · rcases List.mem_cons.mp later with rfl | last
          · rcases Request.move_claims requestMoved isClaimed with old | new
            · exact Or.inl (mem_claims_of_request pending old)
            · obtain ⟨join, succeeds, rfl, rfl, rfl, nothing⟩ := new
              exact Or.inr ⟨join, by simp [emptySelect, found, nothing], rfl⟩
          · have old : other ∈ state.requests := by simp [split, last]
            exact Or.inl (mem_claims_of_request old isClaimed)

theorem step_primaryKey {state next : State} {label : Label}
    (moved : step state label = some next) (distinct : (state.table.map Row.claim).Nodup) :
    (next.table.map Row.claim).Nodup := by
  cases label with
  | formSubmit event =>
      simp only [step] at moved
      split at moved
      · cases moved
        exact distinct
      · cases moved
        exact distinct
  | guildDel guildId nickname =>
      cases moved
      exact distinct
  | move index move =>
      obtain ⟨⟨table, requests⟩, happened, rfl⟩ := Option.map_eq_some_iff.mp moved
      obtain ⟨_, _, _, _, _, _, requestMoved, _⟩ := Parties.moveAt_eq_some happened
      exact Request.move_primaryKey requestMoved distinct

theorem Claim.Rivals.symm {first second : Claim} (rivals : first.Rivals second) :
    second.Rivals first :=
  ⟨rivals.1.symm, rivals.2.1.symm, rivals.2.2.symm⟩

theorem oneClaimant_step {state next : State} {label : Label} (one : OneClaimant state)
    (unclaimed : Unclaimed state label) (moved : step state label = some next) :
    OneClaimant next where
  primaryKey := step_primaryKey moved one.primaryKey
  alone := by
    intro first firstClaimed second secondClaimed rivals
    rcases step_claims moved firstClaimed with firstOld | ⟨join, selects, rfl⟩
    · rcases step_claims moved secondClaimed with secondOld | ⟨join, selects, rfl⟩
      · exact one.alone first firstOld second secondOld rivals
      · exact unclaimed join selects first firstOld rivals
    · rcases step_claims moved secondClaimed with secondOld | ⟨other, otherSelects, rfl⟩
      · exact unclaimed join selects second secondOld rivals.symm
      · rw [selects, Option.some.injEq] at otherSelects
        exact rivals.2.2 (congrArg Join.userId otherSelects)

theorem exists_claim_insertRow (row : Row) (table : List Row) :
    ∃ stored ∈ insertRow row table, stored.claim = row.claim := by
  unfold insertRow
  split
  · rename_i present
    obtain ⟨other, stored, same⟩ := List.any_eq_true.mp present
    exact ⟨other, stored, (samePrimaryKey_iff.mp same).symm⟩
  · exact ⟨row, by simp, rfl⟩

theorem subset_insertRow (row : Row) (table : List Row) : table ⊆ insertRow row table := by
  unfold insertRow
  split
  · exact List.Subset.refl _
  · exact List.subset_append_left _ _

/-- In the last state the claim is stored, and nothing else is touched. -/
structure Stores (state final : State) (index : Nat) (claim : Claim) : Prop where
  stored : ∃ row ∈ final.table, row.claim = claim
  kept : state.table ⊆ final.table
  others : ∀ other, other ≠ index → final.requests[other]? = state.requests[other]?

theorem step_insert {state : State} {index : Nat} {row : Row}
    (found : state.requests[index]? = some (.inserting row)) :
    ∃ final, step state (.move index (.execute true)) = some final ∧
      Stores state final index row.claim := by
  refine ⟨⟨insertRow row state.table, state.requests.set index .finished⟩, ?_, ?_⟩
  · simp [step, Parties.moveAt, found, Request.move]
  · refine ⟨exists_claim_insertRow row state.table, subset_insertRow row state.table, ?_⟩
    intro other differs
    exact List.getElem?_set_ne (Ne.symm differs)

theorem step_clear {state : State} {index : Nat} {join : Join}
    (found : state.requests[index]? = some (.selected join false)) :
    step state (.move index .callback) =
      some ⟨state.table, state.requests.set index (.inserting
        ⟨join.guildId, join.userId, join.saveNickName, join.ilvl, join.gameSpec⟩)⟩ := by
  simp [step, Parties.moveAt, found, Request.move, addGuildNickNameCallback]

/-- A join that has claimed its nickname can get it stored. -/
theorem exists_stores {state : State} {index : Nat} {request : Request} {claim : Claim}
    (found : state.requests[index]? = some request) (claimed : claim ∈ request.claims) :
    ∃ later final, exec step state later = some final ∧ Stores state final index claim := by
  cases request with
  | inserting row =>
      rw [Request.claims, List.mem_singleton] at claimed
      subst claimed
      obtain ⟨final, moved, stores⟩ := step_insert found
      exact ⟨[_], final, exec_cons.mpr ⟨final, moved, rfl⟩, stores⟩
  | selected join result =>
      cases result with
      | true => simp [Request.claims] at claimed
      | false =>
          rw [Request.claims, List.mem_singleton] at claimed
          subst claimed
          have cleared := step_clear found
          have bound := (List.getElem?_eq_some_iff.mp found).1
          obtain ⟨final, moved, stores⟩ := @step_insert ⟨state.table, _⟩ index _
            (List.getElem?_set_self bound)
          refine ⟨[_, _], final, exec_cons.mpr ⟨_, cleared, exec_cons.mpr ⟨_, moved, rfl⟩⟩,
            stores.stored, stores.kept, ?_⟩
          intro other differs
          rw [stores.others other differs]
          exact List.getElem?_set_ne (Ne.symm differs)
  | selecting join => simp [Request.claims] at claimed
  | listing removal => simp [Request.claims] at claimed
  | listed removal result => simp [Request.claims] at claimed
  | deleting guildId nickname => simp [Request.claims] at claimed
  | finished => simp [Request.claims] at claimed

theorem not_unique_of_rivals {table : List Row} {first second : Row}
    (firstStored : first ∈ table) (secondStored : second ∈ table)
    (rivals : first.claim.Rivals second.claim) : ¬ UniqueNicknames table := by
  intro unique
  have same : first = second := by
    apply List.inj_on_of_nodup_map unique firstStored secondStored
    rw [Row.key, Row.key, Prod.mk.injEq]
    exact ⟨rivals.1, rivals.2.1⟩
  exact rivals.2.2 (congrArg Row.userId same)

/-- A join that has claimed a nickname of a rival can make the table hold it
twice. -/
theorem exists_duplicate {state : State} {index : Nat} {join : Join} {rival : Claim}
    (found : state.requests[index]? = some (.selected join false))
    (claimed : rival ∈ state.claims) (rivals : rival.Rivals join.claim) :
    ∃ later final, exec step state later = some final ∧ ¬ UniqueNicknames final.table := by
  obtain ⟨later, final, reached, stores⟩ := exists_stores found (List.mem_singleton_self _)
  obtain ⟨row, stored, rowClaim⟩ := stores.stored
  rcases mem_claims_cases claimed with ⟨other, otherStored, rfl⟩ | ⟨request, pending, isClaimed⟩
  · refine ⟨later, final, reached, ?_⟩
    exact not_unique_of_rivals (stores.kept otherStored) stored (rowClaim ▸ rivals)
  · obtain ⟨position, requestFound⟩ := List.mem_iff_getElem?.mp pending
    have elsewhere : position ≠ index := by
      rintro rfl
      rw [found, Option.some.injEq] at requestFound
      subst requestFound
      rw [Request.claims, List.mem_singleton] at isClaimed
      exact rivals.2.2 (congrArg Claim.userId isClaimed)
    rw [← stores.others position elsewhere] at requestFound
    obtain ⟨more, last, continued, lastStores⟩ := exists_stores requestFound isClaimed
    obtain ⟨other, otherStored, otherClaim⟩ := lastStores.stored
    refine ⟨later ++ more, last, exec_append reached continued, ?_⟩
    apply not_unique_of_rivals otherStored (lastStores.kept stored)
    rw [otherClaim, rowClaim]
    exact rivals

theorem emptySelect_cases {state : State} {label : Label} {join : Join}
    (selects : emptySelect state label = some join) :
    ∃ index succeeds, label = .move index (.execute succeeds) ∧
      state.requests[index]? = some (.selecting join) ∧
        (succeeds && state.table.any (Row.isNamed join.guildId join.saveNickName)) = false := by
  cases label with
  | formSubmit event => cases selects
  | guildDel guildId nickname => cases selects
  | move index move =>
      cases move with
      | answer rows => cases selects
      | callback => cases selects
      | execute succeeds =>
          refine ⟨index, succeeds, rfl, ?_⟩
          simp only [emptySelect] at selects
          split at selects
          · rename_i found
            split_ifs at selects with nothing
            cases selects
            exact ⟨found, by simpa using nothing⟩
          · cases selects

/-- An empty `SELECT` adds a claim to those that exist. -/
theorem step_emptySelect {state next : State} {label : Label} {join : Join}
    (selects : emptySelect state label = some join) (moved : step state label = some next) :
    ∃ index : Nat, next.requests[index]? = some (.selected join false) ∧
      ∀ claim ∈ state.claims, claim ∈ next.claims := by
  obtain ⟨index, succeeds, rfl, found, nothing⟩ := emptySelect_cases selects
  have bound := (List.getElem?_eq_some_iff.mp found).1
  simp only [step, Parties.moveAt, found, Option.bind_some, Request.move, nothing,
    Option.map_some, Option.some.injEq] at moved
  subst moved
  refine ⟨index, List.getElem?_set_self bound, ?_⟩
  intro claim claimed
  rcases mem_claims_cases claimed with ⟨row, stored, rfl⟩ | ⟨request, pending, isClaimed⟩
  · exact @mem_claims_of_row ⟨state.table, _⟩ row stored
  · obtain ⟨position, requestFound⟩ := List.mem_iff_getElem?.mp pending
    have elsewhere : index ≠ position := by
      rintro rfl
      rw [found, Option.some.injEq] at requestFound
      subst requestFound
      simp [Request.claims] at isClaimed
    have remains : request ∈ state.requests.set index (.selected join false) := by
      apply List.mem_of_getElem?
      rw [List.getElem?_set_ne elsewhere]
      exact requestFound
    exact @mem_claims_of_request ⟨state.table, _⟩ request claim remains isClaimed

/-- Joins and deletions may interleave in any way: as long as no `SELECT`
returns empty while another user has the nickname or has claimed it, every
nickname is stored once, and a step that breaks this condition can always be
continued to a table that stores the nickname twice. -/
theorem uniqueNicknames_of_unclaimed {table : List Row} (unique : UniqueNicknames table)
    {labels : List Label} {state : State}
    (meets : Meets step Unclaimed (State.start table) labels)
    (reached : exec step (State.start table) labels = some state) :
    UniqueNicknames state.table ∧
      ∀ label next, step state label = some next → ¬ Unclaimed state label →
        ∃ later final, exec step next later = some final ∧ ¬ UniqueNicknames final.table := by
  have one := exec_invariant oneClaimant_step meets reached (oneClaimant_start unique)
  refine ⟨one.uniqueNicknames, ?_⟩
  intro label next moved claimed
  unfold Unclaimed at claimed
  push Not at claimed
  obtain ⟨join, selects, rival, isClaimed, rivals⟩ := claimed
  obtain ⟨index, found, kept⟩ := step_emptySelect (Option.mem_def.mp selects) moved
  exact exists_duplicate found (kept rival isClaimed) rivals

def formOf (userId : Snowflake) : FormSubmit :=
  { guildId := 10
    userId := userId
    channelId := 3
    nickName := "arthas"
    gameSpec := "mage"
    ilvlStr := "200" }

/-- One join is carried out before the other user's form is submitted. -/
def joinsInTurn : List Label :=
  [.formSubmit (formOf 1), .move 0 (.execute true), .move 0 .callback, .move 0 (.execute true),
    .formSubmit (formOf 2), .move 1 (.execute true), .move 1 .callback]

/-- The second user is turned away. -/
theorem uniqueNicknames_joinsInTurn :
    ∃ state, exec step (State.start []) joinsInTurn = some state ∧
      state.table = [⟨10, 1, "Arthas", 200, "mage"⟩] ∧ UniqueNicknames state.table := by
  have reached : exec step (State.start []) joinsInTurn =
      some ⟨[⟨10, 1, "Arthas", 200, "mage"⟩], [.finished, .finished]⟩ := by
    decide +kernel
  have meets : Meets step Unclaimed (State.start []) joinsInTurn := by
    decide +kernel
  exact ⟨_, reached, rfl,
    (uniqueNicknames_of_unclaimed (by decide) meets reached).1⟩

/-- Two users submit the same nickname, and both `SELECT`s run before either
`INSERT`: the table holds the nickname twice. -/
theorem overlapping_joins_duplicate :
    UniqueNicknames [] ∧
      ∃ state, exec step (State.start [])
          [.formSubmit (formOf 1), .formSubmit (formOf 2), .move 0 (.execute true),
            .move 1 (.execute true), .move 0 .callback, .move 1 .callback,
            .move 0 (.execute true), .move 1 (.execute true)] = some state ∧
        ¬ UniqueNicknames state.table := by
  refine ⟨by decide, ⟨[⟨10, 1, "Arthas", 200, "mage"⟩, ⟨10, 2, "Arthas", 200, "mage"⟩],
    [.finished, .finished]⟩, ?_, ?_⟩
  · decide +kernel
  · decide +kernel

end GuildPlayers

end WarheadBot
