import Mathlib.Data.List.Basic

/-!
# Positions in a text

A text is searched, cut and edited at positions.  Where a position is the end of
what has been dealt with, each operation is about what is behind it, and a text is
gone through from one occurrence of an element to the next.
-/

namespace WarheadBot

namespace TextPositions

variable {Element : Type*}

/-- The first occurrence that is not before a position. -/
def find [DecidableEq Element] (sought : Element) (text : List Element) (position : Nat) :
    Option Nat :=
  ((text.drop position).findIdx? fun element => element = sought).map fun offset =>
    position + offset

/-- The part of a text that begins at a position, which must not be behind the end. -/
def substr (text : List Element) (position count : Nat) : Option (List Element) :=
  if position ≤ text.length then some ((text.drop position).take count) else none

def replace (text : List Element) (position count : Nat) (inserted : List Element) :
    Option (List Element) :=
  if position ≤ text.length then
    some (text.take position ++ inserted ++ text.drop (position + count))
  else none

section Find

variable [DecidableEq Element] {sought : Element} {before middle behind rest : List Element}

theorem find_append_cons (absent : sought ∉ middle) :
    find sought (before ++ (middle ++ sought :: behind)) before.length =
      some (before.length + middle.length) := by
  have first : (middle ++ sought :: behind).findIdx? (fun element => element = sought) =
      some middle.length := by
    rw [List.findIdx?_append, List.findIdx?_eq_none_iff.mpr, List.findIdx?_cons]
    · simp
    · intro element inside
      exact decide_eq_false fun same => absent (same ▸ inside)
  rw [find, List.drop_left, first, Option.map_some]

theorem find_append_of_not_mem (absent : sought ∉ rest) :
    find sought (before ++ rest) before.length = none := by
  have nowhere : rest.findIdx? (fun element => element = sought) = none :=
    List.findIdx?_eq_none_iff.mpr fun element inside =>
      decide_eq_false fun same => absent (same ▸ inside)
  rw [find, List.drop_left, nowhere, Option.map_none]

theorem le_and_lt_of_find {text : List Element} {position found : Nat}
    (occurs : find sought text position = some found) : position ≤ found ∧ found < text.length := by
  obtain ⟨offset, index, rfl⟩ := Option.map_eq_some_iff.mp occurs
  have within := (List.findIdx?_eq_some_iff_getElem.mp index).1
  rw [List.length_drop] at within
  exact ⟨Nat.le_add_right _ _, by omega⟩

/-- A text has the element nowhere, or it is what is before the first occurrence and
what is behind it. -/
@[elab_as_elim]
theorem cut_induction (sought : Element) {motive : List Element → Prop}
    (last : ∀ rest, sought ∉ rest → motive rest)
    (cut : ∀ middle behind, sought ∉ middle → motive behind → motive (middle ++ sought :: behind))
    (text : List Element) : motive text := by
  induction size : text.length using Nat.strongRecOn generalizing text with
  | ind size ih =>
    by_cases occurs : sought ∈ text
    · obtain ⟨middle, behind, rfl, absent⟩ := List.eq_append_cons_of_mem occurs
      rw [List.length_append, List.length_cons] at size
      exact cut middle behind absent (ih behind.length (by omega) behind rfl)
    · exact last text occurs

end Find

section Edit

variable (before middle behind : List Element)

theorem substr_append : substr (before ++ (middle ++ behind)) before.length middle.length =
    some middle := by
  rw [substr, if_pos (by simp), List.drop_left, List.take_left]

theorem replace_append_cons (removed : Element) (inserted : List Element) :
    replace (before ++ (middle ++ removed :: behind)) (before.length + middle.length) 1 inserted =
      some (before ++ middle ++ inserted ++ behind) := by
  have size : before.length + middle.length = (before ++ middle).length :=
    List.length_append.symm
  rw [replace, if_pos (by simp), ← List.append_assoc, size, List.take_left,
    ← List.drop_drop, List.drop_left]
  rfl

end Edit

end TextPositions

end WarheadBot
