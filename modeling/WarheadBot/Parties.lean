import Mathlib.Data.List.Basic

/-!
# Lists of parties that share a store

The parties of a system are kept in a list, and a party is named by its index.
A move of one party may read and change the shared store; it leaves the other
parties as they are.
-/

namespace WarheadBot

namespace Parties

variable {Shared Party Item : Type*}

/-- The party at `index` moves. -/
def moveAt (move : Shared → Party → Option (Shared × Party)) (shared : Shared)
    (parties : List Party) (index : Nat) : Option (Shared × List Party) :=
  (parties[index]?).bind fun party =>
    (move shared party).map fun result => (result.1, parties.set index result.2)

variable {move : Shared → Party → Option (Shared × Party)} {shared next : Shared}
  {parties moved : List Party} {index : Nat}

theorem moveAt_eq_some (happened : moveAt move shared parties index = some (next, moved)) :
    ∃ before party changed after, parties = before ++ party :: after ∧
      parties[index]? = some party ∧ move shared party = some (next, changed) ∧
      moved = before ++ changed :: after := by
  unfold moveAt at happened
  rw [Option.bind_eq_some_iff] at happened
  obtain ⟨party, found, result⟩ := happened
  rw [Option.map_eq_some_iff] at result
  obtain ⟨⟨store, changed⟩, step, equal⟩ := result
  rw [Prod.mk.injEq] at equal
  obtain ⟨rfl, rfl⟩ := equal
  obtain ⟨bound, rfl⟩ := List.getElem?_eq_some_iff.mp found
  refine ⟨parties.take index, parties[index], changed, parties.drop (index + 1), ?_, found,
    step, ?_⟩
  · rw [List.getElem_cons_drop, List.take_append_drop]
  · exact List.set_eq_take_append_cons_drop.trans (if_pos bound)

/-- The party that came last moves. -/
theorem moveAt_length (move : Shared → Party → Option (Shared × Party)) (shared : Shared)
    (parties : List Party) (party : Party) :
    moveAt move shared (parties ++ [party]) parties.length =
      (move shared party).map fun result => (result.1, parties ++ [result.2]) := by
  have found : (parties ++ [party])[parties.length]? = some party := by
    rw [List.getElem?_append_right (Nat.le_refl _), Nat.sub_self]
    rfl
  have changed (other : Party) :
      (parties ++ [party]).set parties.length other = parties ++ [other] := by
    rw [List.set_append_right _ _ (Nat.le_refl _), Nat.sub_self]
    rfl
  unfold moveAt
  rw [found, Option.bind_some]
  simp only [changed]

/-- What holds of every party still does, if the party that moves keeps it. -/
theorem forall_of_moveAt {inv : Party → Prop}
    (happened : moveAt move shared parties index = some (next, moved))
    (preserved : ∀ party changed, parties[index]? = some party → inv party →
      move shared party = some (next, changed) → inv changed)
    (held : ∀ party ∈ parties, inv party) : ∀ party ∈ moved, inv party := by
  obtain ⟨before, party, changed, after, rfl, found, step, rfl⟩ := moveAt_eq_some happened
  intro other member
  rcases List.mem_append.mp member with earlier | later
  · exact held other (List.mem_append_left _ earlier)
  · rcases List.mem_cons.mp later with rfl | last
    · exact preserved party other found (held party (by simp)) step
    · exact held other (List.mem_append_right _ (List.mem_cons_of_mem _ last))

/-- The items of all parties change by those of the party that moves. -/
theorem count_of_moveAt [DecidableEq Item] (items : Party → List Item)
    (happened : moveAt move shared parties index = some (next, moved)) :
    ∃ party changed, parties[index]? = some party ∧ move shared party = some (next, changed) ∧
      ∀ item, (moved.flatMap items).count item + (items party).count item =
        (parties.flatMap items).count item + (items changed).count item := by
  obtain ⟨before, party, changed, after, rfl, found, step, rfl⟩ := moveAt_eq_some happened
  refine ⟨party, changed, found, step, ?_⟩
  intro item
  simp only [List.flatMap_append, List.flatMap_cons, List.count_append]
  omega

end Parties

end WarheadBot
