import Mathlib.Data.List.Infix
import WarheadBot.Log

/-!
# The loggers that a filter falls back to

`GetLoggerByType` goes from a name to the part before its last dot, and from a
name without a dot to the root.  The names it asks for are listed here from the
components of the filter, and the function finds the first of them that is
registered.
-/

namespace WarheadBot

namespace Logging

open Config (Text)
open LastSeparator

/-- The names made of the leading components, the longest first. -/
def leadingNames (components : List Text) : List Text :=
  components.inits.tail.reverse.map fun leading => ['.'].intercalate leading

@[simp]
theorem leadingNames_nil : leadingNames [] = [] :=
  rfl

theorem leadingNames_append_singleton (components : List Text) (component : Text) :
    leadingNames (components ++ [component]) =
      ['.'].intercalate (components ++ [component]) :: leadingNames components := by
  have nonempty : components.inits ≠ [] := by
    intro empty
    have present : [] ∈ components.inits := by simp
    rw [empty] at present
    exact List.not_mem_nil present
  unfold leadingNames
  rw [List.inits_append]
  simp [List.tail_append_of_ne_nil nonempty]

/-- The elements of a list up to the first one that equals `stop`. -/
def upTo (stop : Text) : List Text → List Text
  | [] => []
  | first :: rest => if first = stop then [first] else first :: upTo stop rest

/-- The names that are asked for, in their order. -/
def lookupNames (filter : Text) : List Text :=
  upTo loggerRoot (leadingNames (filter.splitOn '.') ++ [loggerRoot])

variable {Value : Type} (loggers : Text → Option Value)

theorem getLoggerByType_of_registered {type : Text} {logger : Value}
    (registered : loggers type = some logger) : getLoggerByType loggers type = some logger := by
  rw [getLoggerByType, registered]

theorem getLoggerByType_root : getLoggerByType loggers loggerRoot = loggers loggerRoot := by
  rw [getLoggerByType]
  cases loggers loggerRoot with
  | none => rfl
  | some logger => rfl

theorem getLoggerByType_of_unregistered {type : Text} (unregistered : loggers type = none)
    (other : type ≠ loggerRoot) :
    getLoggerByType loggers type = getLoggerByType loggers (parentLogger type) := by
  rw [getLoggerByType, unregistered]
  exact if_neg other

/-- What is found is registered under some name. -/
theorem registered_of_getLoggerByType {type : Text} {logger : Value}
    (found : getLoggerByType loggers type = some logger) :
    ∃ name, loggers name = some logger := by
  induction type using getLoggerByType.induct loggers with
  | case1 type registered present =>
      rw [getLoggerByType_of_registered loggers present] at found
      exact ⟨type, present.trans found⟩
  | case2 absent =>
      rw [getLoggerByType_root, absent] at found
      exact nomatch found
  | case3 type absent other ih =>
      rw [getLoggerByType_of_unregistered loggers absent other] at found
      exact ih found

theorem getLoggerByType_intercalate {components : List Text} (nonempty : components ≠ [])
    (undotted : ∀ component ∈ components, '.' ∉ component) :
    getLoggerByType loggers (['.'].intercalate components) =
      (upTo loggerRoot (leadingNames components ++ [loggerRoot])).findSome? loggers := by
  induction components using List.reverseRecOn with
  | nil => exact absurd rfl nonempty
  | append_singleton components component ih =>
      have last : '.' ∉ component := undotted component (by simp)
      rw [leadingNames_append_singleton, List.cons_append, upTo]
      cases registered : loggers (['.'].intercalate (components ++ [component])) with
      | some logger =>
          rw [getLoggerByType_of_registered loggers registered]
          split_ifs <;> rw [List.findSome?_cons, registered]
      | none =>
          split_ifs with isRoot
          · rw [isRoot, getLoggerByType_root, ← isRoot]
            simp [registered]
          · rw [getLoggerByType_of_unregistered loggers registered isRoot,
              List.findSome?_cons, registered]
            by_cases single : components = []
            · subst single
              have parent : parentLogger (['.'].intercalate ([] ++ [component])) = loggerRoot := by
                rw [List.nil_append, List.intercalate_singleton, parentLogger,
                  splitLast_eq_none_iff.mpr last]
              rw [parent, getLoggerByType_root]
              simp [upTo]
            · have parent : parentLogger (['.'].intercalate (components ++ [component])) =
                  ['.'].intercalate components := by
                rw [parentLogger, splitLast_intercalate single last]
              rw [parent]
              apply ih single
              intro earlier inside
              exact undotted earlier (List.mem_append_left _ inside)

theorem getLoggerByType_lookupNames (filter : Text) :
    getLoggerByType loggers filter = (lookupNames filter).findSome? loggers := by
  have joined := getLoggerByType_intercalate loggers (List.splitOn_ne_nil '.' filter)
    fun component => not_mem_of_mem_splitOn
  rwa [List.intercalate_splitOn] at joined

/-- The logger of a filter is the first registered one of the names that are
made of its leading components, and of the root. -/
theorem getLoggerByType_eq_findSome (filter : Text) :
    getLoggerByType loggers filter = (lookupNames filter).findSome? loggers ∧
      (getLoggerByType loggers filter = none ↔
        ∀ name ∈ lookupNames filter, loggers name = none) := by
  have found := getLoggerByType_lookupNames loggers filter
  refine ⟨found, ?_⟩
  rw [found, List.findSome?_eq_none_iff]

example : lookupNames "a..root.b".toList =
    ["a..root.b".toList, "a..root".toList, "a.".toList, "a".toList, loggerRoot] := by
  decide

example : lookupNames "root.server".toList = ["root.server".toList, loggerRoot] := by
  decide

end Logging

end WarheadBot
