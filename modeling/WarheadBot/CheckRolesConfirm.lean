import Mathlib
import WarheadBot.CheckRoles

/-!
# What a confirmation removes

Pending requests are stored per author, while the buttons belong to messages.
A click on Confirm therefore acts on the last stored request of the clicking
user, whichever message of that user carries the button.  The store and the
messages are connected by one invariant: a pending request is the one shown by
the last message of its author.  From it follows exactly when a click removes
what its message shows.
-/

namespace WarheadBot

namespace CheckRoles

open GuardedRuns

theorem customId_inj {button : Button} {first second : Snowflake} :
    button.customId first = button.customId second ↔ first = second := by
  unfold Button.customId decimal
  rw [String.append_left_inj, Nat.repr_inj, UInt64.toNat_inj]

theorem confirm_customId_ne_delete (first second : Snowflake) :
    Button.confirm.customId first ≠ Button.delete.customId second := by
  intro equal
  have lists := congrArg (fun text => text.toList.getLast?) equal
  simp [Button.customId, Button.suffix] at lists

theorem decimal_isPrefixOf_customId (button : Button) (user : Snowflake) :
    (decimal user).toList.isPrefixOf (button.customId user).toList = true := by
  rw [List.isPrefixOf_iff_prefix, Button.customId, String.toList_append]
  exact List.prefix_append _ _

theorem onButtonClick_confirm_author (channel : Snowflake) (message : Nat) (user : Snowflake)
    (buttons : ConfirmButtons) :
    (onButtonClick ⟨channel, message, user, Button.confirm.customId user⟩ buttons).1.removals =
      ((buttons user).map ConfirmButton.removals).getD [] := by
  have notDelete := confirm_customId_ne_delete user user
  simp only [onButtonClick, decimal_isPrefixOf_customId, notDelete, getConfirmButton]
  cases buttons user <;> simp

/-- Nobody but its author can confirm a request, even when the identifier of
one user is a prefix of that of the other. -/
theorem onButtonClick_confirm_other (channel : Snowflake) (message : Nat)
    {user author : Snowflake} (other : user ≠ author) (buttons : ConfirmButtons) :
    (onButtonClick ⟨channel, message, user, Button.confirm.customId author⟩ buttons).1.removals =
      [] := by
  have notConfirm : Button.confirm.customId author ≠ Button.confirm.customId user :=
    fun equal => other (customId_inj.mp equal).symm
  have notDelete := confirm_customId_ne_delete author user
  simp only [onButtonClick, notConfirm, notDelete]
  split <;> simp

def State.latest (state : State) (author : Snowflake) : Option RequestMessage :=
  (state.messages.filter fun sent => sent.authorId = author).getLast?

/-- Every pending request lists a member and is shown by the newest message of
its author. -/
def PendingShown (state : State) : Prop :=
  ∀ author confirm, state.confirmButtons author = some confirm →
    confirm.members ≠ [] ∧
      ∃ sent, state.latest author = some sent ∧ sent.request = confirm

theorem pendingShown_start : PendingShown State.start := by
  intro author confirm stored
  simp [State.start] at stored

theorem accepted_members_ne_nil {command : SlashCommand} {embed : DiscordEmbedMsg}
    {confirm : ConfirmButton} (accepted : checkRolesHandler command = .accepted embed confirm) :
    confirm.members ≠ [] := by
  unfold checkRolesHandler at accepted
  split at accepted
  · cases accepted
  split at accepted
  · cases accepted
  split at accepted
  · cases accepted
  dsimp only at accepted
  split at accepted
  · cases accepted
  · rename_i nonempty
    cases accepted
    simpa using nonempty

theorem onButtonClick_stored {event : ButtonClick} {buttons : ConfirmButtons}
    {author : Snowflake} {confirm : ConfirmButton}
    (stored : (onButtonClick event buttons).2 author = some confirm) :
    buttons author = some confirm := by
  unfold onButtonClick at stored
  dsimp only at stored
  split_ifs at stored
  · exact stored
  · exact stored
  · exact stored
  · exact stored
  · cases pending : getConfirmButton buttons event.userId with
    | none =>
        rw [pending] at stored
        exact stored
    | some found =>
        rw [pending] at stored
        by_cases same : author = event.userId
        · subst same
          simp [deleteConfirmButton] at stored
        · simpa [deleteConfirmButton, Function.update_of_ne same] using stored

theorem latest_append_same (state : State) (buttons : ConfirmButtons) (sent : RequestMessage) :
    State.latest ⟨buttons, state.messages ++ [sent]⟩ sent.authorId = some sent := by
  simp [State.latest, List.filter_append]

theorem latest_append_other (state : State) (buttons : ConfirmButtons) (sent : RequestMessage)
    {author : Snowflake} (other : sent.authorId ≠ author) :
    State.latest ⟨buttons, state.messages ++ [sent]⟩ author = state.latest author := by
  simp [State.latest, List.filter_append, other]

theorem pendingShown_step {state next : State} {event : Event} (shown : PendingShown state)
    (moved : step state event = some next) : PendingShown next := by
  intro author confirm stored
  cases event with
  | checkRoles command =>
      simp only [step] at moved
      cases reply : checkRolesHandler command with
      | rejected embed =>
          simp only [reply, Option.some.injEq] at moved
          subst moved
          exact shown author confirm stored
      | accepted embed accepted =>
          simp only [reply, Option.some.injEq] at moved
          subst moved
          by_cases same : command.authorId = author
          · subst same
            simp only [addConfirmButton, Function.update_self, Option.some.injEq] at stored
            subst stored
            exact ⟨accepted_members_ne_nil reply, _, latest_append_same state _ _, rfl⟩
          · simp only [addConfirmButton, Function.update_of_ne (Ne.symm same)] at stored
            rw [latest_append_other state _ _ same]
            exact shown author confirm stored
  | click message button user =>
      simp only [step, State.click, Option.map_map, Option.map_eq_some_iff] at moved
      obtain ⟨sent, _, moved⟩ := moved
      subst moved
      exact shown author confirm (onButtonClick_stored stored)

theorem pendingShown_of_reached {events : List Event} {state : State}
    (reached : exec step State.start events = some state) : PendingShown state :=
  exec_invariant_of_step pendingShown_step reached pendingShown_start

/-- Two requests remove the same role from the same members of the same
guild. -/
def SameRemoval (first second : ConfirmButton) : Prop :=
  first.guildId = second.guildId ∧ first.deleteRoleId = second.deleteRoleId ∧
    first.members.Perm second.members

theorem removals_perm_iff {first second : ConfirmButton} (nonempty : first.members ≠ []) :
    first.removals.Perm second.removals ↔ SameRemoval first second := by
  constructor
  · intro perm
    obtain ⟨member, members, split⟩ := List.exists_cons_of_ne_nil nonempty
    have removed : (⟨first.guildId, member, first.deleteRoleId⟩ : RoleRemoval) ∈
        second.removals := by
      apply perm.mem_iff.mp
      simp [ConfirmButton.removals, split]
    simp only [ConfirmButton.removals, List.mem_map, RoleRemoval.mk.injEq] at removed
    obtain ⟨_, _, guildEq, _, roleEq⟩ := removed
    refine ⟨guildEq.symm, roleEq.symm, ?_⟩
    have members := perm.map RoleRemoval.memberId
    simpa [ConfirmButton.removals, List.map_map, Function.comp_def] using members
  · rintro ⟨guildEq, roleEq, perm⟩
    simp only [ConfirmButton.removals, guildEq, roleEq]
    exact perm.map _

def State.clickRemovals (state : State) (message : Nat) (button : Button) (user : Snowflake) :
    Option (List RoleRemoval) :=
  (state.click message button user).map fun handled => handled.1.removals

/-- Nothing, or exactly what the clicked message shows: its role, from its
members, in its guild. -/
def RemovesShown (sent : RequestMessage) (removals : List RoleRemoval) : Prop :=
  removals = [] ∨ removals.Perm sent.request.removals

/-- The clicking user is not the author, or has no pending request, or the
newest message sent to the user shows the same guild, role and members as the
clicked one. -/
def NotSuperseded (state : State) (sent : RequestMessage) (user : Snowflake) : Prop :=
  user = sent.authorId → state.confirmButtons user ≠ none →
    ∃ newest, state.latest user = some newest ∧ SameRemoval newest.request sent.request

theorem confirm_clickRemovals {state : State} {message : Nat} {sent : RequestMessage}
    (present : state.messages[message]? = some sent) (user : Snowflake) :
    state.clickRemovals message .confirm user =
      some (if user = sent.authorId then
        ((state.confirmButtons user).map ConfirmButton.removals).getD [] else []) := by
  simp only [State.clickRemovals, State.click, present, Option.map_some]
  by_cases author : user = sent.authorId
  · rw [if_pos author, ← author, onButtonClick_confirm_author]
  · rw [if_neg author, onButtonClick_confirm_other _ _ author]

/-- In every state the bot can reach, a click on Confirm removes what its
message shows, or nothing, exactly when the message is not superseded by a
pending request that shows something else. -/
theorem confirm_removesShown_iff {events : List Event} {state : State}
    (reached : exec step State.start events = some state)
    {message : Nat} {sent : RequestMessage} (present : state.messages[message]? = some sent)
    (user : Snowflake) :
    (∃ removals, state.clickRemovals message .confirm user = some removals ∧
        RemovesShown sent removals) ↔
      NotSuperseded state sent user := by
  rw [confirm_clickRemovals present]
  simp only [Option.some.injEq, exists_eq_left', NotSuperseded]
  by_cases author : user = sent.authorId
  · cases pending : state.confirmButtons user with
    | none => simp [RemovesShown]
    | some confirm =>
        obtain ⟨nonempty, newest, latest, request⟩ :=
          pendingShown_of_reached reached user confirm pending
        have removes : confirm.removals ≠ [] := by
          simpa [ConfirmButton.removals] using nonempty
        have acts : RemovesShown sent confirm.removals ↔ SameRemoval confirm sent.request := by
          simp [RemovesShown, removes, removals_perm_iff nonempty]
        subst author
        simp [latest, request, acts]
  · simp [author, RemovesShown]

instance (sent : RequestMessage) (removals : List RoleRemoval) :
    Decidable (RemovesShown sent removals) :=
  inferInstanceAs (Decidable (_ ∨ _))

def commandIn (guild member : Snowflake) : SlashCommand :=
  { guildId := guild
    channelId := 3
    authorId := 1
    roleKeep := 5
    roleKeepKnown := true
    roleDel := 6
    roleDelKnown := true
    guildMembers := [(member, [5, 6])] }

def afterFirst : State :=
  { confirmButtons := addConfirmButton 1 ⟨5, 6, 10, [100]⟩ State.start.confirmButtons
    messages := [⟨3, 1, requestEmbed ⟨5, 6, 10, [100]⟩, ⟨5, 6, 10, [100]⟩⟩] }

/-- Confirming the only request removes what its message shows. -/
theorem confirm_only_request :
    ∃ removals, afterFirst.clickRemovals 0 .confirm 1 = some removals ∧
      RemovesShown ⟨3, 1, requestEmbed ⟨5, 6, 10, [100]⟩, ⟨5, 6, 10, [100]⟩⟩ removals := by
  refine (@confirm_removesShown_iff [.checkRoles (commandIn 10 100)] afterFirst rfl 0 _ rfl
    1).mpr ?_
  intro _ _
  exact ⟨_, rfl, rfl, rfl, List.Perm.refl _⟩

/-- Two commands of one author, then Confirm on the older message: the role of
the other request is removed, in the other guild and from its member. -/
theorem confirm_older_message_removes_newer_request :
    ∃ state sent removals,
      exec step State.start [.checkRoles (commandIn 10 100), .checkRoles (commandIn 20 200)] =
          some state ∧
        state.messages[0]? = some sent ∧
          state.clickRemovals 0 .confirm 1 = some removals ∧ ¬ RemovesShown sent removals := by
  refine ⟨_, _, [⟨20, 200, 6⟩], rfl, rfl, ?_, ?_⟩
  · decide
  · decide

end CheckRoles

end WarheadBot
