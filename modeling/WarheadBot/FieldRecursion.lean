import WarheadBot.Field

/-!
# When reading a field comes to an end

For `sum` and `avg` a call asks for a `double`, and for `count` it asks for a
`uint64`.  The call it makes is accepted only if the server reports the type
that the source expects of the function; for any other type that call makes the
same call again.
-/

namespace WarheadBot

namespace Fields

open GuildPlayers (stringEqualI)
open Iteration

variable {Real : Type} {real : FloatingPoint Real} {field : Field}

theorem not_stringEqualI_of_ne {name first second : String}
    (equal : stringEqualI name first = true)
    (differ : first.toList.map Char.toLower ≠ second.toList.map Char.toLower) :
    stringEqualI name second = false := by
  simp only [stringEqualI, decide_eq_true_eq, decide_eq_false_iff_not] at equal ⊢
  rw [equal]
  exact differ

theorem isSumOrAvg_exclusive {name : String} (aggregate : isSumOrAvg name = true) :
    isCount name = false ∧ isMinOrMax name = false := by
  rw [isSumOrAvg, Bool.or_eq_true] at aggregate
  rw [isCount, isMinOrMax, Bool.or_eq_false_iff]
  rcases aggregate with isSum | isAvg
  · exact ⟨not_stringEqualI_of_ne isSum (by decide), not_stringEqualI_of_ne isSum (by decide),
      not_stringEqualI_of_ne isSum (by decide)⟩
  · exact ⟨not_stringEqualI_of_ne isAvg (by decide), not_stringEqualI_of_ne isAvg (by decide),
      not_stringEqualI_of_ne isAvg (by decide)⟩

theorem isCount_exclusive {name : String} (aggregate : isCount name = true) :
    isSumOrAvg name = false ∧ isMinOrMax name = false := by
  rw [isCount] at aggregate
  rw [isSumOrAvg, isMinOrMax, Bool.or_eq_false_iff, Bool.or_eq_false_iff]
  exact ⟨⟨not_stringEqualI_of_ne aggregate (by decide),
    not_stringEqualI_of_ne aggregate (by decide)⟩,
    not_stringEqualI_of_ne aggregate (by decide),
    not_stringEqualI_of_ne aggregate (by decide)⟩

/-- What a call for a sum or an average does. -/
theorem calledType_sum {metadata : QueryResultFieldMetadata} {name : String}
    (clean : getCleanAliasName metadata.aliasName = some name)
    (aggregate : isSumOrAvg name = true) (requested : ArithmeticType) :
    calledType requested metadata =
      if requested = .double ∧ metadata.type = .decimal then none else some .double := by
  obtain ⟨notCount, notMin⟩ := isSumOrAvg_exclusive aggregate
  rw [calledType, clean]
  dsimp only
  rw [aggregate, notCount]
  cases requested with
  | bool => simp [isCorrectAlias, notMin]
  | integer signed width =>
      cases signed <;> cases width <;> simp [isCorrectAlias, notMin, notCount]
  | float => simp [isCorrectAlias, notMin]
  | double =>
      by_cases expected : metadata.type = .decimal
      · simp [isCorrectAlias, aggregate, expected]
      · simp [isCorrectAlias, expected]

/-- What a call for a count does. -/
theorem calledType_count {metadata : QueryResultFieldMetadata} {name : String}
    (clean : getCleanAliasName metadata.aliasName = some name)
    (aggregate : isCount name = true) (requested : ArithmeticType) :
    calledType requested metadata =
      if requested = uint64 ∧ metadata.type = .int64 then none else some uint64 := by
  obtain ⟨notSum, notMin⟩ := isCount_exclusive aggregate
  rw [calledType, clean]
  dsimp only
  rw [aggregate, notSum]
  cases requested with
  | bool => simp [isCorrectAlias, notMin, uint64]
  | integer signed width =>
      cases signed <;> cases width <;>
        by_cases expected : metadata.type = .int64 <;>
          simp [isCorrectAlias, notMin, aggregate, uint64, expected]
  | float => simp [isCorrectAlias, notMin, uint64]
  | double => simp [isCorrectAlias, notSum, uint64]

theorem calledType_other {metadata : QueryResultFieldMetadata}
    (other : ∀ name, getCleanAliasName metadata.aliasName = some name →
      isSumOrAvg name = false ∧ isCount name = false) (requested : ArithmeticType) :
    calledType requested metadata = none := by
  rw [calledType]
  cases clean : getCleanAliasName metadata.aliasName with
  | none => rfl
  | some name => simp [other name clean]

theorem step_running {bytes : List UInt8} (notNull : field.value = some bytes)
    (requested : ArithmeticType) (callers : List ArithmeticType) :
    field.step real (.running requested callers) =
      match calledType requested field.metadata with
      | some called => .running called (requested :: callers)
      | none => .returnTo real callers (convert real field bytes requested) := by
  cases calls : calledType requested field.metadata with
  | none => simp only [Field.step, notNull, calls]
  | some called => simp only [Field.step, notNull, calls]

theorem ends_of_calledType_none {bytes : List UInt8} (notNull : field.value = some bytes)
    {requested : ArithmeticType} (noCall : calledType requested field.metadata = none)
    (callers : List ArithmeticType) :
    Ends (field.step real) Call.Returned (.running requested callers) := by
  rw [ends_iff_step (fun returned => returned), step_running notNull, noCall]
  exact ends_of_final trivial

theorem ends_of_calledType {bytes : List UInt8} (notNull : field.value = some bytes)
    {requested called : ArithmeticType} (calls : calledType requested field.metadata = some called)
    (accepted : calledType called field.metadata = none) (callers : List ArithmeticType) :
    Ends (field.step real) Call.Returned (.running requested callers) := by
  rw [ends_iff_step (fun returned => returned), step_running notNull, calls]
  exact ends_of_calledType_none notNull accepted _

/-- If every call makes another one, then no call ever returns. -/
theorem not_ends_of_calls {bytes : List UInt8} (notNull : field.value = some bytes)
    (calls : ∀ requested, calledType requested field.metadata ≠ none)
    (requested : ArithmeticType) :
    ¬ Ends (field.step real) Call.Returned (.running requested []) := by
  refine @not_ends_of_invariant _ (field.step real) Call.Returned
    (fun call => ∃ current callers, call = .running current callers) ?_ ?_ _
    ⟨requested, [], rfl⟩
  · rintro call ⟨current, callers, rfl⟩
    cases called : calledType current field.metadata with
    | none => exact absurd called (calls current)
    | some next =>
        rw [step_running notNull, called]
        exact ⟨next, current :: callers, rfl⟩
  · rintro call ⟨current, callers, rfl⟩
    exact id

/-- A function whose value is asked for with one type only is read to its end
exactly if the column has the type it is expected to have. -/
theorem ends_iff_of_calledType {bytes : List UInt8} (notNull : field.value = some bytes)
    {called : ArithmeticType} {expected : DatabaseFieldTypes}
    (calls : ∀ requested, calledType requested field.metadata =
      if requested = called ∧ field.metadata.type = expected then none else some called)
    (requested : ArithmeticType) :
    Ends (field.step real) Call.Returned (.running requested []) ↔
      field.metadata.type = expected := by
  constructor
  · intro ends
    by_contra unexpected
    refine not_ends_of_calls notNull ?_ requested ends
    intro current
    simp [calls, unexpected]
  · intro isExpected
    have accepted : calledType called field.metadata = none := by
      simp [calls, isExpected]
    by_cases isCalled : requested = called
    · subst isCalled
      exact ends_of_calledType_none notNull accepted []
    · exact ends_of_calledType notNull (by simp [calls, isCalled]) accepted []

/-- The server reports the expected type for an aggregate function. -/
def ExpectedType (metadata : QueryResultFieldMetadata) : Prop :=
  ∀ name, getCleanAliasName metadata.aliasName = some name →
    (isSumOrAvg name = true → metadata.type = .decimal) ∧
      (isCount name = true → metadata.type = .int64)

/-- For every field, every column and every type that is asked for: `GetData`
returns exactly if the value is null or the type of the column is the one that
is expected of the aggregate function its alias names. -/
theorem getData_returns_iff {Real : Type} (real : FloatingPoint Real) (field : Field)
    (requested : ArithmeticType) :
    Ends (field.step real) Call.Returned (.running requested []) ↔
      field.value = none ∨ ExpectedType field.metadata := by
  cases value : field.value with
  | none =>
      simp only [true_or, iff_true]
      rw [ends_iff_step (fun returned => returned), Field.step, value]
      exact ends_of_final trivial
  | some bytes =>
      simp only [reduceCtorEq, false_or]
      by_cases aggregate : ∃ name, getCleanAliasName field.metadata.aliasName = some name ∧
          (isSumOrAvg name = true ∨ isCount name = true)
      · obtain ⟨name, clean, isSum | isCount⟩ := aggregate
        · have notCount := (isSumOrAvg_exclusive isSum).1
          have expected : ExpectedType field.metadata ↔ field.metadata.type = .decimal := by
            simp [ExpectedType, clean, isSum, notCount]
          rw [expected]
          exact ends_iff_of_calledType value (calledType_sum clean isSum) requested
        · have notSum := (isCount_exclusive isCount).1
          have expected : ExpectedType field.metadata ↔ field.metadata.type = .int64 := by
            simp [ExpectedType, clean, isCount, notSum]
          rw [expected]
          exact ends_iff_of_calledType value (calledType_count clean isCount) requested
      · have other : ∀ name, getCleanAliasName field.metadata.aliasName = some name →
            isSumOrAvg name = false ∧ isCount name = false := by
          intro name clean
          constructor
          · by_contra isSum
            exact aggregate ⟨name, clean, .inl (by simpa using isSum)⟩
          · by_contra isCount
            exact aggregate ⟨name, clean, .inr (by simpa using isCount)⟩
        have expected : ExpectedType field.metadata := by
          intro name clean
          simp [other name clean]
        simp only [expected, iff_true]
        exact ends_of_calledType_none value (calledType_other other requested) []

/-- The sum of a column of floating point numbers, which the server reports as a
`double`, is read forever. -/
theorem getData_sum_of_doubles :
    ¬ Ends (Field.step wholeNumbers ⟨some [49], false, ⟨"SUM(price)", .double⟩⟩) Call.Returned
      (.running .double []) := by
  have isSum : isSumOrAvg "SUM" = true := by decide
  have clean : getCleanAliasName "SUM(price)" = some "SUM" := by decide
  refine not_ends_of_calls rfl ?_ .double
  intro requested
  have calls := @calledType_sum ⟨"SUM(price)", .double⟩ "SUM" clean isSum requested
  rw [calls]
  simp

end Fields

end WarheadBot
