import Mathlib.Data.List.Basic

/-!
# Cutting a list at its last separator

`splitLast` cuts a list at the last occurrence of a separator, which is what is
done with the position that `std::string::find_last_of` returns.  A list of
parts that are joined by separators is taken apart from its end.
-/

namespace WarheadBot

namespace LastSeparator

variable {Element : Type*} [DecidableEq Element] {separator : Element}

/-- What stands before and behind the last separator, if there is one. -/
def splitLast (separator : Element) : List Element → Option (List Element × List Element)
  | [] => none
  | first :: rest =>
      match splitLast separator rest with
      | some (before, behind) => some (first :: before, behind)
      | none => if first = separator then some ([], rest) else none

theorem splitLast_cons (first : Element) (rest : List Element) :
    splitLast separator (first :: rest) =
      match splitLast separator rest with
      | some (before, behind) => some (first :: before, behind)
      | none => if first = separator then some ([], rest) else none :=
  rfl

theorem splitLast_eq_none_iff {list : List Element} :
    splitLast separator list = none ↔ separator ∉ list := by
  induction list with
  | nil => simp [splitLast]
  | cons first rest ih =>
      rw [splitLast_cons, List.mem_cons, not_or, ← ih]
      cases splitLast separator rest with
      | none => simp [eq_comm]
      | some parts => simp

theorem splitLast_append_cons (before : List Element) {behind : List Element}
    (absent : separator ∉ behind) :
    splitLast separator (before ++ separator :: behind) = some (before, behind) := by
  induction before with
  | nil =>
      rw [List.nil_append, splitLast_cons, splitLast_eq_none_iff.mpr absent]
      exact if_pos rfl
  | cons first before ih => rw [List.cons_append, splitLast_cons, ih]

theorem splitLast_eq_some_iff {list before behind : List Element} :
    splitLast separator list = some (before, behind) ↔
      list = before ++ separator :: behind ∧ separator ∉ behind := by
  constructor
  · intro cut
    induction list generalizing before with
    | nil => simp [splitLast] at cut
    | cons first rest ih =>
        rw [splitLast_cons] at cut
        cases inside : splitLast separator rest with
        | none =>
            rw [inside] at cut
            dsimp only at cut
            split_ifs at cut with isSeparator
            obtain ⟨rfl, rfl⟩ := Prod.mk.inj (Option.some.inj cut)
            exact ⟨by rw [isSeparator, List.nil_append], splitLast_eq_none_iff.mp inside⟩
        | some parts =>
            rw [inside] at cut
            obtain ⟨rfl, rfl⟩ := Prod.mk.inj (Option.some.inj cut)
            obtain ⟨joined, absent⟩ := ih inside
            exact ⟨by rw [joined, List.cons_append], absent⟩
  · rintro ⟨rfl, absent⟩
    exact splitLast_append_cons before absent

theorem length_before_lt {list before behind : List Element}
    (cut : splitLast separator list = some (before, behind)) : before.length < list.length := by
  obtain ⟨rfl, -⟩ := splitLast_eq_some_iff.mp cut
  simp

omit [DecidableEq Element] in
theorem intercalate_append_singleton {parts : List (List Element)} (nonempty : parts ≠ [])
    (part : List Element) :
    [separator].intercalate (parts ++ [part]) =
      [separator].intercalate parts ++ separator :: part := by
  induction parts with
  | nil => exact absurd rfl nonempty
  | cons first rest ih =>
      cases rest with
      | nil =>
          rw [List.intercalate_singleton, List.cons_append, List.nil_append,
            List.intercalate_cons_cons, List.intercalate_singleton, List.append_assoc,
            List.singleton_append]
      | cons second rest =>
          rw [List.cons_append, List.intercalate_cons_of_ne_nil (by simp),
            ih (List.cons_ne_nil second rest),
            List.intercalate_cons_of_ne_nil (List.cons_ne_nil second rest)]
          simp only [List.append_assoc]

/-- The last of several parts is cut off. -/
theorem splitLast_intercalate {parts : List (List Element)} (nonempty : parts ≠ [])
    {part : List Element} (absent : separator ∉ part) :
    splitLast separator ([separator].intercalate (parts ++ [part])) =
      some ([separator].intercalate parts, part) := by
  rw [intercalate_append_singleton nonempty, splitLast_append_cons _ absent]

theorem not_mem_of_mem_splitOn {list part : List Element}
    (inside : part ∈ list.splitOn separator) : separator ∉ part := by
  induction list generalizing part with
  | nil =>
      rw [List.splitOn_nil, List.mem_singleton] at inside
      simp [inside]
  | cons first rest ih =>
      rw [List.splitOn_cons_eq_if_modifyHead] at inside
      split_ifs at inside with isSeparator
      · cases List.mem_cons.mp inside with
        | inl empty => simp [empty]
        | inr later => exact ih later
      · cases parts : rest.splitOn separator with
        | nil => exact absurd parts (List.splitOn_ne_nil separator rest)
        | cons head tail =>
            rw [parts, List.modifyHead_cons, List.mem_cons] at inside
            rw [parts] at ih
            cases inside with
            | inl extended =>
                have other : separator ≠ first := fun same => isSeparator (by simp [same])
                rw [extended, List.mem_cons, not_or]
                exact ⟨other, ih List.mem_cons_self⟩
            | inr later => exact ih (List.mem_cons_of_mem head later)

end LastSeparator

end WarheadBot
