import Mathlib.Data.List.Basic

/-!
# Runs of guarded transition functions

A transition system is given by a partial function `step`: the label names the
thread or call that moves and carries every choice of the environment, and
`none` says that the move is not possible in the current state.  A run is a
word of labels.  Conditions on single steps are stated as guards, and the
invariant rules below turn what one guarded step preserves into what every
guarded run preserves.
-/

namespace WarheadBot

namespace GuardedRuns

variable {State Label : Type*}

/-- The state a word of labels leads to, if all its moves are possible. -/
def exec (step : State → Label → Option State) : State → List Label → Option State
  | state, [] => some state
  | state, label :: labels => (step state label).bind fun next => exec step next labels

/-- Every move of the run meets `guard` in the state it is made in. -/
def Meets (step : State → Label → Option State) (guard : State → Label → Prop) :
    State → List Label → Prop
  | _, [] => True
  | state, label :: labels =>
      guard state label ∧ ∀ next, step state label = some next → Meets step guard next labels

/-- Every state along the run has the property. -/
def Always (step : State → Label → Option State) (prop : State → Prop) :
    State → List Label → Prop
  | state, [] => prop state
  | state, label :: labels =>
      prop state ∧ ∀ next, step state label = some next → Always step prop next labels

variable {step : State → Label → Option State} {guard : State → Label → Prop}

@[simp]
theorem exec_nil (state : State) : exec step state [] = some state :=
  rfl

theorem exec_cons {state last : State} {label : Label} {labels : List Label} :
    exec step state (label :: labels) = some last ↔
      ∃ next, step state label = some next ∧ exec step next labels = some last := by
  simp [exec, Option.bind_eq_some_iff]

theorem exec_append {state middle last : State} {first second : List Label}
    (reached : exec step state first = some middle)
    (continued : exec step middle second = some last) :
    exec step state (first ++ second) = some last := by
  induction first generalizing state with
  | nil =>
      rw [exec_nil, Option.some.injEq] at reached
      exact reached ▸ continued
  | cons label first ih =>
      obtain ⟨next, moved, rest⟩ := exec_cons.mp reached
      exact exec_cons.mpr ⟨next, moved, ih rest⟩

/-- A system with additional bookkeeping runs like the one without it, if each
of its moves does. -/
theorem exec_map {Plain : Type*} {plainStep : Plain → Label → Option Plain}
    {erase : State → Plain}
    (beside : ∀ state label, (step state label).map erase = plainStep (erase state) label)
    (state : State) (labels : List Label) :
    (exec step state labels).map erase = exec plainStep (erase state) labels := by
  induction labels generalizing state with
  | nil => rfl
  | cons label labels ih =>
      rw [exec, exec, ← beside state label]
      cases moved : step state label with
      | none => rfl
      | some next => exact ih next

/-- Every plain run is the run of the system with bookkeeping. -/
theorem exists_exec_of_map {Plain : Type*} {plainStep : Plain → Label → Option Plain}
    {erase : State → Plain}
    (beside : ∀ state label, (step state label).map erase = plainStep (erase state) label)
    (state : State) {labels : List Label} {plain : Plain}
    (reached : exec plainStep (erase state) labels = some plain) :
    ∃ last, exec step state labels = some last ∧ erase last = plain := by
  rw [← exec_map beside] at reached
  exact Option.map_eq_some_iff.mp reached

theorem meets_of_map {Plain : Type*} {plainStep : Plain → Label → Option Plain}
    {plainGuard : Plain → Label → Prop} {erase : State → Plain}
    (beside : ∀ state label, (step state label).map erase = plainStep (erase state) label)
    {state : State} {labels : List Label}
    (meets : Meets plainStep plainGuard (erase state) labels) :
    Meets step (fun current => plainGuard (erase current)) state labels := by
  induction labels generalizing state with
  | nil => trivial
  | cons label labels ih =>
      refine ⟨meets.1, ?_⟩
      intro next moved
      apply ih
      apply meets.2
      rw [← beside, moved, Option.map_some]

instance decidableMeets [∀ state label, Decidable (guard state label)] :
    ∀ state labels, Decidable (Meets step guard state labels)
  | _, [] => isTrue trivial
  | state, label :: labels =>
      match moved : step state label with
      | none => decidable_of_iff (guard state label) (by simp [Meets, moved])
      | some next =>
          haveI := decidableMeets next labels
          decidable_of_iff (guard state label ∧ Meets step guard next labels)
            (by simp [Meets, moved])

/-- The invariant rule: what every guarded move preserves, every guarded run
preserves. -/
theorem exec_invariant {inv : State → Prop}
    (preserved : ∀ {state next : State} {label : Label}, inv state → guard state label →
      step state label = some next → inv next)
    {state last : State} {labels : List Label}
    (meets : Meets step guard state labels)
    (reached : exec step state labels = some last) (start : inv state) : inv last := by
  induction labels generalizing state with
  | nil =>
      rw [exec_nil, Option.some.injEq] at reached
      exact reached ▸ start
  | cons label labels ih =>
      obtain ⟨next, moved, rest⟩ := exec_cons.mp reached
      exact ih (meets.2 next moved) rest (preserved start meets.1 moved)

/-- The invariant rule for a system whose moves need no condition. -/
theorem exec_invariant_of_step {inv : State → Prop}
    (preserved : ∀ {state next : State} {label : Label}, inv state →
      step state label = some next → inv next)
    {state last : State} {labels : List Label}
    (reached : exec step state labels = some last) (start : inv state) : inv last := by
  induction labels generalizing state with
  | nil =>
      rw [exec_nil, Option.some.injEq] at reached
      exact reached ▸ start
  | cons label labels ih =>
      obtain ⟨next, moved, rest⟩ := exec_cons.mp reached
      exact ih rest (preserved start moved)

/-- A condition on the labels alone. -/
theorem meets_of_forall {test : Label → Prop} {labels : List Label}
    (all : ∀ label ∈ labels, test label) (state : State) :
    Meets step (fun _ label => test label) state labels := by
  induction labels generalizing state with
  | nil => trivial
  | cons label labels ih =>
      rw [List.forall_mem_cons] at all
      exact ⟨all.1, fun next _ => ih all.2 next⟩

/-- The termination rule: a guarded run is no longer than what a measure that each of
its moves lowers was at the start. -/
theorem length_add_le_of_exec {inv : State → Prop} {measure : State → Nat}
    (preserved : ∀ {state next : State} {label : Label}, inv state → guard state label →
      step state label = some next → inv next)
    (lowers : ∀ {state next : State} {label : Label}, inv state → guard state label →
      step state label = some next → measure next < measure state)
    {state last : State} {labels : List Label}
    (meets : Meets step guard state labels)
    (reached : exec step state labels = some last) (start : inv state) :
    labels.length + measure last ≤ measure state := by
  induction labels generalizing state with
  | nil =>
      rw [exec_nil, Option.some.injEq] at reached
      rw [reached]
      exact Nat.le_of_eq (Nat.zero_add _)
  | cons label labels ih =>
      obtain ⟨next, moved, rest⟩ := exec_cons.mp reached
      have later := ih (meets.2 next moved) rest (preserved start meets.1 moved)
      have lower := lowers start meets.1 moved
      rw [List.length_cons]
      omega

/-- The simulation rule: if each guarded move is matched by a word of moves of another
system, each guarded run is a run of that system. -/
theorem exec_simulates {Other OtherLabel : Type*}
    {otherStep : Other → OtherLabel → Option Other} {relation : State → Other → Prop}
    {image : Label → List OtherLabel}
    (simulates : ∀ {state next : State} {label : Label} {other : Other}, relation state other →
      guard state label → step state label = some next →
        ∃ otherNext, exec otherStep other (image label) = some otherNext ∧
          relation next otherNext)
    {state last : State} {other : Other} {labels : List Label}
    (meets : Meets step guard state labels)
    (reached : exec step state labels = some last) (start : relation state other) :
    ∃ otherLast, exec otherStep other (labels.flatMap image) = some otherLast ∧
      relation last otherLast := by
  induction labels generalizing state other with
  | nil =>
      rw [exec_nil, Option.some.injEq] at reached
      exact ⟨other, rfl, reached ▸ start⟩
  | cons label labels ih =>
      obtain ⟨next, moved, rest⟩ := exec_cons.mp reached
      obtain ⟨otherNext, matched, related⟩ := simulates start meets.1 moved
      obtain ⟨otherLast, continued, final⟩ := ih (meets.2 next moved) rest related
      exact ⟨otherLast, exec_append matched continued, final⟩

/-- A property is kept along exactly the guarded runs, if every move keeps it
exactly when it meets the guard. -/
theorem always_iff_meets {inv prop : State → Prop}
    (preserved : ∀ {state next : State} {label : Label}, inv state →
      step state label = some next → inv next)
    (exact : ∀ {state next : State} {label : Label}, inv state → prop state →
      step state label = some next → (prop next ↔ guard state label))
    {state last : State} {labels : List Label} (reached : exec step state labels = some last)
    (start : inv state) (held : prop state) :
    Always step prop state labels ↔ Meets step guard state labels := by
  induction labels generalizing state with
  | nil => exact ⟨fun _ => trivial, fun _ => held⟩
  | cons label labels ih =>
      obtain ⟨next, moved, rest⟩ := exec_cons.mp reached
      have kept := exact start held moved
      have later := ih rest (preserved start moved)
      simp only [Always, Meets, moved, Option.some.injEq, forall_eq', held, true_and]
      constructor
      · intro always
        have now : prop next := by
          cases labels with
          | nil => exact always
          | cons other labels => exact always.1
        exact ⟨kept.mp now, (later now).mp always⟩
      · rintro ⟨guarded, meets⟩
        exact (later (kept.mpr guarded)).mpr meets

end GuardedRuns

end WarheadBot
