import Mathlib.Data.List.Basic

/-!
# Two letter cases

A map to small letters and a map to capitals, such that small letters stay and
a letter is found again from its capital.  A word with a capital first letter
and small letters after it is a canonical form of all words that differ in the
cases only.
-/

namespace WarheadBot

structure LetterCase (Letter : Type*) where
  lower : Letter → Letter
  upper : Letter → Letter
  lower_lower : ∀ letter, lower (lower letter) = lower letter
  lower_upper : ∀ letter, lower (upper letter) = lower letter

namespace LetterCase

variable {Letter : Type*} (letterCase : LetterCase Letter)

def capitalize : List Letter → List Letter
  | [] => []
  | first :: rest => letterCase.upper first :: rest

def canonical (word : List Letter) : List Letter :=
  letterCase.capitalize (word.map letterCase.lower)

@[simp]
theorem map_lower_capitalize (word : List Letter) :
    (letterCase.capitalize word).map letterCase.lower = word.map letterCase.lower := by
  cases word with
  | nil => rfl
  | cons first rest => rw [capitalize, List.map_cons, List.map_cons, letterCase.lower_upper]

@[simp]
theorem map_lower_map_lower (word : List Letter) :
    (word.map letterCase.lower).map letterCase.lower = word.map letterCase.lower := by
  rw [List.map_map]
  exact List.map_congr_left fun letter _ => letterCase.lower_lower letter

@[simp]
theorem map_lower_canonical (word : List Letter) :
    (letterCase.canonical word).map letterCase.lower = word.map letterCase.lower := by
  rw [canonical, map_lower_capitalize, map_lower_map_lower]

@[simp]
theorem canonical_canonical (word : List Letter) :
    letterCase.canonical (letterCase.canonical word) = letterCase.canonical word := by
  rw [canonical, map_lower_canonical, canonical]

theorem canonical_eq_iff {word other : List Letter} :
    letterCase.canonical word = letterCase.canonical other ↔
      word.map letterCase.lower = other.map letterCase.lower := by
  constructor
  · intro same
    have lowered := congrArg (List.map letterCase.lower) same
    rwa [map_lower_canonical, map_lower_canonical] at lowered
  · intro same
    rw [canonical, same, canonical]

@[simp]
theorem canonical_eq_nil_iff {word : List Letter} :
    letterCase.canonical word = [] ↔ word = [] := by
  cases word with
  | nil => exact Iff.rfl
  | cons first rest =>
      rw [canonical, List.map_cons, capitalize]
      exact ⟨nofun, nofun⟩

/-- A letter that no other letter is mapped to is neither lost nor added. -/
theorem mem_canonical_iff {letter : Letter}
    (lowers : ∀ other, letterCase.lower other = letter ↔ other = letter)
    (uppers : ∀ other, letterCase.upper other = letter ↔ other = letter) {word : List Letter} :
    letter ∈ letterCase.canonical word ↔ letter ∈ word := by
  have lowered : letter ∈ word.map letterCase.lower ↔ letter ∈ word := by
    simp only [List.mem_map, lowers, exists_eq_right]
  rw [← lowered, canonical]
  cases word.map letterCase.lower with
  | nil => exact Iff.rfl
  | cons first rest =>
      rw [capitalize, List.mem_cons, List.mem_cons, eq_comm, uppers, eq_comm]

end LetterCase

end WarheadBot
