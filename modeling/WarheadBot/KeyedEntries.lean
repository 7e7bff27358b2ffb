import Mathlib.Data.List.Nodup
import Mathlib.Data.List.Perm.Lattice

/-!
# Lists of keyed entries

Entries are collected so that the first one of each key stays.  A map that is
built from entries with different keys, each of which changes the map at its own
key only, does not depend on their order.
-/

namespace WarheadBot

namespace KeyedEntries

variable {Key Value Result : Type*} [BEq Key]

def addNew (entries : List (Key × Value)) (entry : Key × Value) : List (Key × Value) :=
  if (entries.lookup entry.1).isSome then entries else entries ++ [entry]

/-- The first entry of each key. -/
def firsts (entries : List (Key × Value)) : List (Key × Value) :=
  entries.foldl addNew []

variable [LawfulBEq Key]

theorem lookup_cons_of_ne {key name : Key} (differs : key ≠ name) (value : Value)
    (entries : List (Key × Value)) :
    ((name, value) :: entries).lookup key = entries.lookup key := by
  rw [List.lookup_cons, beq_eq_false_iff_ne.mpr differs]

theorem lookup_addNew (entries : List (Key × Value)) (entry : Key × Value) (key : Key) :
    (addNew entries entry).lookup key = (entries.lookup key).or ([entry].lookup key) := by
  unfold addNew
  split_ifs with present
  · obtain ⟨name, value⟩ := entry
    by_cases same : key = name
    · rw [same, Option.or_of_isSome present]
    · rw [lookup_cons_of_ne same, List.lookup_nil, Option.or_none]
  · exact List.lookup_append

theorem lookup_foldl_addNew (entries later : List (Key × Value)) (key : Key) :
    (later.foldl addNew entries).lookup key = (entries.lookup key).or (later.lookup key) := by
  induction later generalizing entries with
  | nil => rw [List.foldl_nil, List.lookup_nil, Option.or_none]
  | cons entry later ih =>
      rw [List.foldl_cons, ih, lookup_addNew, Option.or_assoc, ← List.lookup_append]
      rfl

@[simp]
theorem lookup_firsts (entries : List (Key × Value)) (key : Key) :
    (firsts entries).lookup key = entries.lookup key := by
  rw [firsts, lookup_foldl_addNew, List.lookup_nil, Option.none_or]

theorem mem_keys_iff {entries : List (Key × Value)} {key : Key} :
    key ∈ entries.map Prod.fst ↔ (entries.lookup key).isSome := by
  rw [List.lookup_isSome_iff, List.mem_map]
  simp only [beq_iff_eq, @eq_comm _ key]

theorem nodup_addNew {entries : List (Key × Value)} (entry : Key × Value)
    (distinct : (entries.map Prod.fst).Nodup) : ((addNew entries entry).map Prod.fst).Nodup := by
  unfold addNew
  split_ifs with present
  · exact distinct
  · rw [List.map_append, List.map_cons, List.map_nil]
    exact distinct.append (List.nodup_singleton _)
      (List.disjoint_singleton.mpr (mt mem_keys_iff.mp present))

theorem nodup_foldl_addNew {entries : List (Key × Value)} (later : List (Key × Value))
    (distinct : (entries.map Prod.fst).Nodup) :
    ((later.foldl addNew entries).map Prod.fst).Nodup := by
  induction later generalizing entries with
  | nil => exact distinct
  | cons entry later ih => exact ih (nodup_addNew entry distinct)

theorem nodup_firsts (entries : List (Key × Value)) : ((firsts entries).map Prod.fst).Nodup :=
  nodup_foldl_addNew entries List.nodup_nil

theorem foldl_addNew_of_nodup {entries later : List (Key × Value)}
    (distinct : ((entries ++ later).map Prod.fst).Nodup) :
    later.foldl addNew entries = entries ++ later := by
  induction later generalizing entries with
  | nil => rw [List.foldl_nil, List.append_nil]
  | cons entry later ih =>
      have absent : ¬(entries.lookup entry.1).isSome := by
        rw [← mem_keys_iff]
        rw [List.map_append, List.map_cons] at distinct
        exact fun present => List.disjoint_of_nodup_append distinct present List.mem_cons_self
      rw [List.foldl_cons, addNew, if_neg absent]
      rw [List.append_cons] at distinct
      rw [ih distinct, ← List.append_cons]

/-- Entries with different keys all stay. -/
theorem firsts_of_nodup {entries : List (Key × Value)}
    (distinct : (entries.map Prod.fst).Nodup) : firsts entries = entries :=
  foldl_addNew_of_nodup distinct

theorem mem_iff_lookup {entries : List (Key × Value)}
    (distinct : (entries.map Prod.fst).Nodup) {key : Key} {value : Value} :
    (key, value) ∈ entries ↔ entries.lookup key = some value := by
  induction entries with
  | nil => exact iff_of_false List.not_mem_nil nofun
  | cons entry entries ih =>
      obtain ⟨name, first⟩ := entry
      rw [List.map_cons, List.nodup_cons] at distinct
      rw [List.mem_cons, Prod.mk.injEq]
      by_cases same : key = name
      · have absent : (key, value) ∉ entries := by
          intro inside
          have present : key ∈ entries.map Prod.fst := List.mem_map_of_mem inside
          exact distinct.1 (same ▸ present)
        rw [same, List.lookup_cons_self, Option.some.injEq, ← same]
        simp only [absent, or_false, true_and, eq_comm]
      · rw [lookup_cons_of_ne same, ← ih distinct.2]
        simp only [same, false_and, false_or]

theorem lookup_perm {entries order : List (Key × Value)} (permuted : order.Perm entries)
    (distinct : (entries.map Prod.fst).Nodup) (key : Key) :
    order.lookup key = entries.lookup key := by
  apply Option.ext
  intro value
  rw [← mem_iff_lookup distinct, ← permuted.mem_iff]
  exact (mem_iff_lookup ((permuted.map Prod.fst).nodup_iff.mpr distinct)).symm

section Folds

variable {step : (Key → Result) → Key × Value → Key → Result}
  {own : Key → Value → Result → Result}

/-- Each entry changes the map at its own key, and that once. -/
theorem foldl_apply
    (others : ∀ map (entry : Key × Value) key, key ≠ entry.1 → step map entry key = map key)
    (itself : ∀ map (entry : Key × Value),
      step map entry entry.1 = own entry.1 entry.2 (map entry.1))
    {entries : List (Key × Value)} (distinct : (entries.map Prod.fst).Nodup)
    (map : Key → Result) (key : Key) :
    entries.foldl step map key =
      (entries.lookup key).elim (map key) fun value => own key value (map key) := by
  induction entries generalizing map with
  | nil => rfl
  | cons entry entries ih =>
      rw [List.map_cons, List.nodup_cons] at distinct
      rw [List.foldl_cons, ih distinct.2]
      obtain ⟨name, value⟩ := entry
      by_cases same : key = name
      · have absent : entries.lookup name = none := by
          rw [← Option.not_isSome_iff_eq_none, ← mem_keys_iff]
          exact distinct.1
        rw [same, absent, Option.elim_none, List.lookup_cons_self, Option.elim_some]
        exact itself map (name, value)
      · rw [lookup_cons_of_ne same, others map (name, value) key same]

end Folds

end KeyedEntries

end WarheadBot
