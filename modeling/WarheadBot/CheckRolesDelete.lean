import Mathlib
import WarheadBot.CheckRolesHistory

/-!
# What a click on Delete prevents

Delete asks Discord to remove the clicked message and leaves the stored request
of its author alone.  Every other message of that author that is still visible
can therefore confirm the request of the deleted one, unless that request was
replaced or carried out before; so can a click on the deleted message itself
that arrives before Discord has removed it.
-/

namespace WarheadBot

namespace CheckRoles

open GuardedRuns

namespace History

/-- No run that starts here carries out the request again. -/
def NeverIssued (history : History) (request : Nat) : Prop :=
  ∀ later final, exec step history later = some final →
    ∃ issues, final.issued = history.issued ++ issues ∧
      some request ∉ issues.map Issue.request

/-- Nothing is pending for the author any more, or the author has made a newer
request than the one the message shows. -/
def Withdrawn (state : State) (message : Nat) (author : Snowflake) : Prop :=
  state.confirmButtons author = none ∨
    ∃ (newer : Nat) (other : RequestMessage), message < newer ∧
      state.messages[newer]? = some other ∧ other.authorId = author

/-- The request was made before and is not stored under anybody. -/
def Unstored (history : History) (request : Nat) : Prop :=
  request < history.commands.length ∧ ∀ author, history.stored author ≠ some request

theorem unstored_step {history next : History} {event : Event} {request : Nat}
    (tracks : Tracks history) (unstored : history.Unstored request)
    (moved : history.step event = some next) :
    next.Unstored request ∧
      ∃ issues, next.issued = history.issued ++ issues ∧
        some request ∉ issues.map Issue.request := by
  obtain ⟨old, unstored⟩ := unstored
  cases transition_of_step moved with
  | rejected command => exact ⟨⟨old, unstored⟩, [], by simp, by simp⟩
  | accepted command embed confirm reply =>
      refine ⟨⟨?_, ?_⟩, [], by simp [afterAccepted], by simp⟩
      · simp only [afterAccepted, List.length_append, List.length_singleton]
        omega
      · intro author stored
        by_cases same : author = command.authorId
        · simp only [afterAccepted, same, Function.update_self, Option.some.injEq] at stored
          omega
        · simp only [afterAccepted, Function.update_of_ne same] at stored
          exact unstored author stored
  | quiet message button user =>
      rw [tracks.afterClick_quiet]
      exact ⟨⟨old, unstored⟩, [], by simp, by simp⟩
  | confirmed message sent confirm present pending =>
      obtain ⟨id, command, embed, stored, numbered, commanded, reply⟩ :=
        tracks.exists_stored pending
      have differs : request ≠ id := fun equal => unstored _ (equal ▸ stored)
      rw [tracks.afterClick_confirmed stored (accepted_members_ne_nil reply)]
      refine ⟨⟨old, ?_⟩, [⟨sent.authorId, some id, confirm.removals⟩], rfl, ?_⟩
      · intro author
        by_cases same : author = sent.authorId
        · simp [carryOut, same]
        · simpa [carryOut, same] using unstored author
      · simpa using differs

theorem neverIssued_of_unstored {history : History} {request : Nat} (tracks : Tracks history)
    (unstored : history.Unstored request) : NeverIssued history request := by
  intro later final reached
  induction later generalizing history with
  | nil =>
      cases reached
      exact ⟨[], by simp, by simp⟩
  | cons event later ih =>
      obtain ⟨next, moved, rest⟩ := exec_cons.mp reached
      obtain ⟨nextUnstored, first, issuedFirst, absentFirst⟩ :=
        unstored_step tracks unstored moved
      obtain ⟨others, issuedOthers, absentOthers⟩ :=
        ih (tracks_step tracks moved) nextUnstored rest
      refine ⟨first ++ others, ?_, ?_⟩
      · rw [issuedOthers, issuedFirst, List.append_assoc]
      · rw [List.map_append, List.mem_append, not_or]
        exact ⟨absentFirst, absentOthers⟩

/-- A message of the author is withdrawn exactly if its request is not the
stored one. -/
theorem Tracks.withdrawn_iff {history : History} (tracks : Tracks history) {message : Nat}
    {sent : RequestMessage} (present : history.state.messages[message]? = some sent) :
    Withdrawn history.state message sent.authorId ↔
      history.stored sent.authorId ≠ some message := by
  constructor
  · intro withdrawn stored
    have storedBy := tracks.stored sent.authorId message stored
    obtain ⟨_, _, _, pending⟩ := storedBy.shown
    rcases withdrawn with missing | ⟨newer, other, after, otherPresent, sameAuthor⟩
    · rw [missing] at pending
      cases pending
    · exact storedBy.newest newer other after otherPresent sameAuthor
  · intro other
    cases stored : history.stored sent.authorId with
    | none => exact Or.inl (tracks.missing _ stored)
    | some id =>
        have storedBy := tracks.stored sent.authorId id stored
        obtain ⟨newest, newestPresent, newestBy, _⟩ := storedBy.shown
        have notAfter : ¬ id < message := fun after =>
          storedBy.newest message sent after present rfl
        have differs : id ≠ message := fun equal => other (equal ▸ stored)
        exact Or.inr ⟨id, newest, by omega, newestPresent, newestBy⟩

/-- In every state the bot can reach, Delete clicked by the author of a message
prevents the role removals of its request exactly if they could not be
confirmed any more anyway. -/
theorem delete_prevents_removals_iff {events : List Event} {history next : History}
    (reached : exec step start events = some history) {message : Nat} {sent : RequestMessage}
    (present : history.state.messages[message]? = some sent)
    (clicked : history.step (.click message .delete sent.authorId) = some next) :
    NeverIssued next message ↔ Withdrawn history.state message sent.authorId := by
  have tracks := tracks_of_reached reached
  have unchanged : next = history := by
    rw [step_click present, State.delete_clickRemovals present, Option.some.injEq] at clicked
    rw [← clicked]
    exact tracks.afterClick_quiet sent.authorId
  subst unchanged
  rw [tracks.withdrawn_iff present]
  constructor
  · intro never stored
    obtain ⟨_, _, _, pending⟩ := (tracks.stored _ message stored).shown
    have confirmed := step_click present .confirm sent.authorId
    obtain ⟨id, command, embed, _, _, _, reply⟩ := tracks.exists_stored pending
    rw [confirm_clickRemovals present] at confirmed
    simp only [pending, Option.map_some, Option.getD_some, if_true, and_self] at confirmed
    rw [tracks.afterClick_confirmed stored (accepted_members_ne_nil reply)] at confirmed
    obtain ⟨issues, extended, absent⟩ :=
      never [.click message .confirm sent.authorId] _ (exec_cons.mpr ⟨_, confirmed, rfl⟩)
    rw [carryOut, List.append_cancel_left_eq] at extended
    simp [← extended] at absent
  · intro other
    refine neverIssued_of_unstored tracks ⟨?_, ?_⟩
    · rw [tracks.lengths]
      exact (List.getElem?_eq_some_iff.mp present).1
    · intro author stored
      obtain ⟨found, foundPresent, foundBy, _⟩ := (tracks.stored author message stored).shown
      rw [present, Option.some.injEq] at foundPresent
      subst foundPresent
      exact other (foundBy ▸ stored)

/-- Deleting the older of two requests: only the newer one is stored. -/
theorem delete_older_request :
    ∃ history, exec step start [.checkRoles (commandIn 10 100), .checkRoles (commandIn 20 200)] =
        some history ∧
      ∃ next, history.step (.click 0 .delete 1) = some next ∧ NeverIssued next 0 := by
  refine ⟨_, rfl, _, rfl, ?_⟩
  refine (@delete_prevents_removals_iff
    [.checkRoles (commandIn 10 100), .checkRoles (commandIn 20 200)] _ _ rfl 0 _ rfl rfl).mpr ?_
  exact Or.inr ⟨1, _, by decide, rfl, rfl⟩

/-- Two commands of one author, Delete on the newer message, then Confirm on
the older one: the deleted request is carried out. -/
theorem deleted_request_confirmed :
    ∃ history next, exec step start
        [.checkRoles (commandIn 10 100), .checkRoles (commandIn 20 200)] = some history ∧
      history.step (.click 1 .delete 1) = some next ∧ ¬ NeverIssued next 1 := by
  refine ⟨_, _, rfl, rfl, ?_⟩
  intro never
  obtain ⟨issues, extended, absent⟩ := never [.click 0 .confirm 1] _ rfl
  have issued : issues = [⟨1, some 1, [⟨20, 200, 6⟩]⟩] := by
    rw [← List.nil_append issues]
    exact extended.symm.trans (by decide)
  simp [issued] at absent

end History

end CheckRoles

end WarheadBot
