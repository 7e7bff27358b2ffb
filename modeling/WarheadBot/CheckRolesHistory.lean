import Mathlib
import WarheadBot.CheckRolesConfirm

/-!
# Which request a removal belongs to

The bot keeps no identifier of a request, so two requests with the same guild,
role and members cannot be told apart by what it stores.  The history below
runs beside the bot: it numbers the accepted commands by the messages that
answer them, remembers which of them is stored under each author, and records
every click that removes roles together with the request it was made for.  It
never influences what the bot does.
-/

namespace WarheadBot

namespace CheckRoles

open GuardedRuns

/-- A click that removed roles, and the number of the request that was stored
under the clicking user. -/
structure Issue where
  user : Snowflake
  request : Option Nat
  removals : List RoleRemoval
  deriving DecidableEq, Repr

structure History where
  state : State
  commands : List SlashCommand
  stored : Snowflake → Option Nat
  issued : List Issue

/-- The new state of the bot when `CheckRolesHandler` accepts a command. -/
def State.accept (state : State) (command : SlashCommand) (embed : DiscordEmbedMsg)
    (confirm : ConfirmButton) : State :=
  { confirmButtons := addConfirmButton command.authorId confirm state.confirmButtons
    messages := state.messages ++ [⟨command.channelId, command.authorId, embed, confirm⟩] }

namespace History

def start : History := ⟨State.start, [], fun _ => none, []⟩

def afterAccepted (history : History) (command : SlashCommand) (state : State) : History :=
  { state := state
    commands := history.commands ++ [command]
    stored := Function.update history.stored command.authorId (some history.commands.length)
    issued := history.issued }

/-- A request is no longer stored once its author has no entry any more. -/
def afterClick (history : History) (user : Snowflake) (removals : List RoleRemoval)
    (state : State) : History :=
  { state := state
    commands := history.commands
    stored := fun author =>
      if (state.confirmButtons author).isSome then history.stored author else none
    issued := if removals = [] then history.issued else
      history.issued ++ [⟨user, history.stored user, removals⟩] }

def step (history : History) (event : Event) : Option History :=
  (CheckRoles.step history.state event).map fun state =>
    match event with
    | .checkRoles command =>
        match checkRolesHandler command with
        | .rejected _ => { history with state := state }
        | .accepted _ _ => history.afterAccepted command state
    | .click message button user =>
        history.afterClick user ((history.state.clickRemovals message button user).getD []) state

end History

theorem scanRoles_keep (keep delete : Snowflake) (roles : List Snowflake)
    (found : Bool × Bool) :
    (scanRoles keep delete roles found).1 = true ↔ found.1 = true ∨ keep ∈ roles := by
  induction roles generalizing found with
  | nil => simp [scanRoles]
  | cons role roles ih =>
      rw [scanRoles]
      split_ifs with isKeep isDelete
      · simp [ih, isKeep]
      · simp [ih, Ne.symm isKeep]
      · simp [ih, Ne.symm isKeep]

/-- A role equal to the kept one is never found as the deleted one. -/
theorem scanRoles_delete (keep delete : Snowflake) (roles : List Snowflake)
    (found : Bool × Bool) :
    (scanRoles keep delete roles found).2 = true ↔
      found.2 = true ∨ (delete ≠ keep ∧ delete ∈ roles) := by
  induction roles generalizing found with
  | nil => simp [scanRoles]
  | cons role roles ih =>
      rw [scanRoles]
      split_ifs with isKeep isDelete
      · simp only [ih, isKeep, List.mem_cons]
        tauto
      · have differ : delete ≠ keep := isDelete ▸ isKeep
        simp [ih, isDelete, differ]
      · simp [ih, Ne.symm isDelete]

theorem hasBothRoles_iff {keep delete : Snowflake} {roles : List Snowflake} :
    hasBothRoles keep delete roles = true ↔
      keep ∈ roles ∧ delete ≠ keep ∧ delete ∈ roles := by
  simp [hasBothRoles, scanRoles_keep, scanRoles_delete]

theorem accepted_request {command : SlashCommand} {embed : DiscordEmbedMsg}
    {confirm : ConfirmButton} (accepted : checkRolesHandler command = .accepted embed confirm) :
    confirm.guildId = command.guildId ∧ confirm.deleteRoleId = command.roleDel ∧
      confirm.members = (command.guildMembers.filter fun member =>
        hasBothRoles command.roleKeep command.roleDel member.2).map Prod.fst := by
  unfold checkRolesHandler at accepted
  dsimp only at accepted
  split_ifs at accepted
  cases accepted
  exact ⟨rfl, rfl, rfl⟩

/-- Who is listed by an accepted command had both roles, and the two roles
differ. -/
theorem accepted_member {command : SlashCommand} {embed : DiscordEmbedMsg}
    {confirm : ConfirmButton} (accepted : checkRolesHandler command = .accepted embed confirm)
    {member : Snowflake} (listed : member ∈ confirm.members) :
    command.roleDel ≠ command.roleKeep ∧
      ∃ roles, (member, roles) ∈ command.guildMembers ∧
        command.roleKeep ∈ roles ∧ command.roleDel ∈ roles := by
  obtain ⟨_, _, members⟩ := accepted_request accepted
  rw [members, List.mem_map] at listed
  obtain ⟨⟨_, roles⟩, kept, rfl⟩ := listed
  obtain ⟨inGuild, both⟩ := List.mem_filter.mp kept
  obtain ⟨hasKeep, differ, hasDelete⟩ := hasBothRoles_iff.mp both
  exact ⟨differ, roles, inGuild, hasKeep, hasDelete⟩

theorem deleteConfirmButton_of_none {buttons : ConfirmButtons} {author : Snowflake}
    (missing : buttons author = none) : deleteConfirmButton author buttons = buttons := by
  rw [deleteConfirmButton, ← missing, Function.update_eq_self]

/-- Only a confirmation by the author of the message acts on the stored
requests. -/
theorem State.click_confirmButtons {state : State} {message : Nat} {sent : RequestMessage}
    (present : state.messages[message]? = some sent) (button : Button) (user : Snowflake) :
    (state.click message button user).map Prod.snd =
      some (if button = .confirm ∧ user = sent.authorId then
        deleteConfirmButton user state.confirmButtons else state.confirmButtons) := by
  simp only [State.click, present, Option.map_some, Option.some.injEq]
  cases button with
  | delete =>
      have notConfirm := confirm_customId_ne_delete user sent.authorId
      simp only [onButtonClick, notConfirm.symm]
      split_ifs <;> simp_all
  | confirm =>
      have notDelete := confirm_customId_ne_delete sent.authorId user
      by_cases author : user = sent.authorId
      · subst author
        simp only [onButtonClick, decimal_isPrefixOf_customId, notDelete, getConfirmButton]
        cases pending : state.confirmButtons sent.authorId with
        | none => simp [deleteConfirmButton_of_none pending]
        | some confirm => simp
      · have notConfirm : Button.confirm.customId sent.authorId ≠
            Button.confirm.customId user :=
          fun equal => author (customId_inj.mp equal).symm
        simp only [onButtonClick, notConfirm, notDelete]
        split_ifs <;> simp_all

theorem State.delete_clickRemovals {state : State} {message : Nat} {sent : RequestMessage}
    (present : state.messages[message]? = some sent) (user : Snowflake) :
    state.clickRemovals message .delete user = some [] := by
  simp only [State.clickRemovals, State.click, present, Option.map_some, Option.some.injEq]
  have notConfirm := confirm_customId_ne_delete user sent.authorId
  simp only [onButtonClick, notConfirm.symm]
  split_ifs <;> simp_all

namespace History

/-- What one event can do: nothing, store an accepted request, or take the
stored request of the clicking user and remove its roles. -/
inductive Transition (history : History) : Event → History → Prop
  | rejected (command : SlashCommand) : Transition history (.checkRoles command) history
  | accepted (command : SlashCommand) (embed : DiscordEmbedMsg) (confirm : ConfirmButton)
      (reply : checkRolesHandler command = .accepted embed confirm) :
      Transition history (.checkRoles command)
        (history.afterAccepted command (history.state.accept command embed confirm))
  | quiet (message : Nat) (button : Button) (user : Snowflake) :
      Transition history (.click message button user)
        (history.afterClick user [] history.state)
  | confirmed (message : Nat) (sent : RequestMessage) (confirm : ConfirmButton)
      (present : history.state.messages[message]? = some sent)
      (pending : history.state.confirmButtons sent.authorId = some confirm) :
      Transition history (.click message .confirm sent.authorId)
        (history.afterClick sent.authorId confirm.removals
          { history.state with
            confirmButtons := deleteConfirmButton sent.authorId history.state.confirmButtons })

theorem step_click {history : History} {message : Nat} {sent : RequestMessage}
    (present : history.state.messages[message]? = some sent) (button : Button)
    (user : Snowflake) :
    history.step (.click message button user) =
      some (history.afterClick user
        ((history.state.clickRemovals message button user).getD [])
        { history.state with
          confirmButtons := if button = .confirm ∧ user = sent.authorId then
            deleteConfirmButton user history.state.confirmButtons
            else history.state.confirmButtons }) := by
  have buttons := State.click_confirmButtons present button user
  obtain ⟨handled, clicked⟩ : ∃ handled, history.state.click message button user =
      some handled := by
    simp [State.click, present]
  rw [clicked, Option.map_some, Option.some.injEq] at buttons
  simp only [step, CheckRoles.step, clicked, Option.map_some, buttons]

theorem transition_of_step {history next : History} {event : Event}
    (moved : history.step event = some next) : Transition history event next := by
  cases event with
  | checkRoles command =>
      cases reply : checkRolesHandler command with
      | rejected embed =>
          simp only [step, CheckRoles.step, reply, Option.map_some, Option.some.injEq] at moved
          subst moved
          exact .rejected command
      | accepted embed confirm =>
          simp only [step, CheckRoles.step, reply, Option.map_some, Option.some.injEq] at moved
          subst moved
          exact .accepted command embed confirm reply
  | click message button user =>
      cases present : history.state.messages[message]? with
      | none => simp [step, CheckRoles.step, State.click, present] at moved
      | some sent =>
          rw [step_click present, Option.some.injEq] at moved
          subst moved
          cases button with
          | delete =>
              rw [State.delete_clickRemovals present]
              exact .quiet message .delete user
          | confirm =>
              rw [confirm_clickRemovals present]
              by_cases author : user = sent.authorId
              · subst author
                cases pending : history.state.confirmButtons sent.authorId with
                | none =>
                    simpa [deleteConfirmButton_of_none pending] using
                      @Transition.quiet history message .confirm sent.authorId
                | some confirm =>
                    simpa using Transition.confirmed message sent confirm present pending
              · simpa [author] using @Transition.quiet history message .confirm user

/-- The issue carries out the request with its number: a request of the user
that clicked, for a role other than the kept one, and only for members that
had both roles when the command was handled. -/
def Authorised (commands : List SlashCommand) (issue : Issue) : Prop :=
  ∃ id command, issue.request = some id ∧ commands[id]? = some command ∧
    command.authorId = issue.user ∧ command.roleDel ≠ command.roleKeep ∧
      ∀ removal ∈ issue.removals,
        removal.guildId = command.guildId ∧ removal.roleId = command.roleDel ∧
          ∃ roles, (removal.memberId, roles) ∈ command.guildMembers ∧
            command.roleKeep ∈ roles ∧ command.roleDel ∈ roles

/-- The message with the number of a stored request is the newest one of its
author and shows what the bot has stored. -/
structure StoredBy (history : History) (author : Snowflake) (id : Nat) : Prop where
  shown : ∃ sent, history.state.messages[id]? = some sent ∧ sent.authorId = author ∧
    history.state.confirmButtons author = some sent.request
  newest : ∀ (later : Nat) (sent : RequestMessage), id < later →
    history.state.messages[later]? = some sent → sent.authorId ≠ author
  unissued : ∀ issue ∈ history.issued, issue.request ≠ some id

theorem StoredBy.fresh {history : History} {author : Snowflake} {id : Nat}
    (storedBy : history.StoredBy author id) : some id ∉ history.issued.map Issue.request := by
  intro issued
  obtain ⟨issue, isIssued, request⟩ := List.mem_map.mp issued
  exact storedBy.unissued issue isIssued request

/-- The history describes what the bot has stored and sent. -/
structure Tracks (history : History) : Prop where
  lengths : history.commands.length = history.state.messages.length
  answered : ∀ (id : Nat) (sent : RequestMessage),
    history.state.messages[id]? = some sent → ∃ command,
      history.commands[id]? = some command ∧ command.authorId = sent.authorId ∧
        checkRolesHandler command = .accepted sent.embed sent.request
  missing : ∀ author, history.stored author = none → history.state.confirmButtons author = none
  stored : ∀ author id, history.stored author = some id → history.StoredBy author id
  authorised : ∀ issue ∈ history.issued, Authorised history.commands issue
  once : (history.issued.map Issue.request).Nodup

theorem tracks_start : Tracks start where
  lengths := rfl
  answered := by
    intro id sent present
    simp [start, State.start] at present
  missing := fun _ _ => rfl
  stored := by
    intro author id stored
    simp [start] at stored
  authorised := by
    intro issue issued
    simp [start] at issued
  once := List.nodup_nil

/-- A click that finds nothing to do leaves the history as it was. -/
theorem Tracks.afterClick_quiet {history : History} (tracks : Tracks history)
    (user : Snowflake) : history.afterClick user [] history.state = history := by
  have unchanged : (fun author => if (history.state.confirmButtons author).isSome then
      history.stored author else none) = history.stored := by
    funext author
    cases stored : history.stored author with
    | none => simp
    | some id =>
        obtain ⟨sent, _, _, pending⟩ := (tracks.stored author id stored).shown
        simp [pending]
  simp only [afterClick, unchanged, if_true]

theorem authorised_append {commands : List SlashCommand} {issue : Issue}
    (authorised : Authorised commands issue) (command : SlashCommand) :
    Authorised (commands ++ [command]) issue := by
  obtain ⟨id, found, request, present, rest⟩ := authorised
  refine ⟨id, found, request, ?_, rest⟩
  rw [List.getElem?_append_left (List.getElem?_eq_some_iff.mp present).1]
  exact present

theorem storedBy_afterAccepted_self {history : History} (tracks : Tracks history)
    (command : SlashCommand) (embed : DiscordEmbedMsg) (confirm : ConfirmButton) :
    (history.afterAccepted command (history.state.accept command embed confirm)).StoredBy
      command.authorId history.commands.length where
  shown := by
    refine ⟨⟨command.channelId, command.authorId, embed, confirm⟩, ?_, rfl, ?_⟩
    · simp [afterAccepted, State.accept, tracks.lengths]
    · simp [afterAccepted, State.accept, addConfirmButton]
  newest := by
    intro later sent after present
    have bound := (List.getElem?_eq_some_iff.mp present).1
    simp only [afterAccepted, State.accept, List.length_append, List.length_singleton] at bound
    have lengths := tracks.lengths
    omega
  unissued := by
    intro issue issued request
    obtain ⟨id, found, sameRequest, present, _⟩ := tracks.authorised issue issued
    rw [request, Option.some.injEq] at sameRequest
    have bound := (List.getElem?_eq_some_iff.mp present).1
    omega

theorem storedBy_afterAccepted_other {history : History} {command : SlashCommand}
    {embed : DiscordEmbedMsg} {confirm : ConfirmButton} {author : Snowflake} {id : Nat}
    (other : author ≠ command.authorId) (before : history.StoredBy author id) :
    (history.afterAccepted command (history.state.accept command embed confirm)).StoredBy
      author id where
  shown := by
    obtain ⟨sent, present, sentBy, pending⟩ := before.shown
    refine ⟨sent, ?_, sentBy, ?_⟩
    · simp only [afterAccepted, State.accept]
      rw [List.getElem?_append_left (List.getElem?_eq_some_iff.mp present).1]
      exact present
    · simpa [afterAccepted, State.accept, addConfirmButton, other] using pending
  newest := by
    intro later sent after present
    simp only [afterAccepted, State.accept, List.getElem?_append] at present
    split_ifs at present
    · exact before.newest later sent after present
    · rw [List.getElem?_singleton] at present
      split_ifs at present
      cases present
      exact Ne.symm other
  unissued := before.unissued

theorem tracks_afterAccepted {history : History} (tracks : Tracks history)
    {command : SlashCommand} {embed : DiscordEmbedMsg} {confirm : ConfirmButton}
    (reply : checkRolesHandler command = .accepted embed confirm) :
    Tracks (history.afterAccepted command (history.state.accept command embed confirm)) where
  lengths := by simp [afterAccepted, State.accept, tracks.lengths]
  answered := by
    intro id sent present
    simp only [afterAccepted, State.accept, List.getElem?_append] at present ⊢
    rw [tracks.lengths]
    split_ifs at present ⊢
    · exact tracks.answered id sent present
    · rw [List.getElem?_singleton] at present ⊢
      split_ifs at present ⊢
      cases present
      exact ⟨command, rfl, rfl, reply⟩
  missing := by
    intro author missing
    by_cases same : author = command.authorId
    · simp [afterAccepted, same] at missing
    · simp only [afterAccepted, Function.update_of_ne same] at missing
      simpa [afterAccepted, State.accept, addConfirmButton, same] using
        tracks.missing author missing
  stored := by
    intro author id stored
    by_cases same : author = command.authorId
    · subst same
      simp only [afterAccepted, Function.update_self, Option.some.injEq] at stored
      subst stored
      exact storedBy_afterAccepted_self tracks command embed confirm
    · simp only [afterAccepted, Function.update_of_ne same] at stored
      exact storedBy_afterAccepted_other same (tracks.stored author id stored)
  authorised := fun issue issued =>
    authorised_append (tracks.authorised issue issued) command
  once := tracks.once

/-- A pending request is one of the numbered ones. -/
theorem Tracks.exists_stored {history : History} (tracks : Tracks history)
    {author : Snowflake} {confirm : ConfirmButton}
    (pending : history.state.confirmButtons author = some confirm) :
    ∃ id command embed, history.stored author = some id ∧
      history.commands[id]? = some command ∧ command.authorId = author ∧
        checkRolesHandler command = .accepted embed confirm := by
  cases stored : history.stored author with
  | none =>
      rw [tracks.missing author stored] at pending
      cases pending
  | some id =>
      obtain ⟨sent, present, sentBy, shown⟩ := (tracks.stored author id stored).shown
      obtain ⟨command, numbered, commanded, reply⟩ := tracks.answered id sent present
      rw [pending, Option.some.injEq] at shown
      exact ⟨id, command, sent.embed, rfl, numbered, commanded.trans sentBy, shown ▸ reply⟩

/-- Carrying out an accepted request is authorised. -/
theorem authorised_of_accepted {commands : List SlashCommand} {id : Nat}
    {command : SlashCommand} {embed : DiscordEmbedMsg} {confirm : ConfirmButton}
    (numbered : commands[id]? = some command)
    (reply : checkRolesHandler command = .accepted embed confirm) :
    Authorised commands ⟨command.authorId, some id, confirm.removals⟩ := by
  obtain ⟨guild, role, _⟩ := accepted_request reply
  obtain ⟨first, members, split⟩ := List.exists_cons_of_ne_nil (accepted_members_ne_nil reply)
  have listed : first ∈ confirm.members := by simp [split]
  refine ⟨id, command, rfl, numbered, rfl, (accepted_member reply listed).1, ?_⟩
  intro removal removed
  obtain ⟨member, isListed, rfl⟩ := List.mem_map.mp removed
  exact ⟨guild, role, (accepted_member reply isListed).2⟩

/-- The history after the stored request `id` of `author` was carried out. -/
def carryOut (history : History) (author : Snowflake) (id : Nat) (confirm : ConfirmButton) :
    History :=
  { state := { history.state with
      confirmButtons := deleteConfirmButton author history.state.confirmButtons }
    commands := history.commands
    stored := Function.update history.stored author none
    issued := history.issued ++ [⟨author, some id, confirm.removals⟩] }

theorem Tracks.afterClick_confirmed {history : History} (tracks : Tracks history)
    {author : Snowflake} {id : Nat} {confirm : ConfirmButton}
    (stored : history.stored author = some id) (nonempty : confirm.members ≠ []) :
    history.afterClick author confirm.removals
        { history.state with
          confirmButtons := deleteConfirmButton author history.state.confirmButtons } =
      history.carryOut author id confirm := by
  have removes : confirm.removals ≠ [] := by
    simpa [ConfirmButton.removals] using nonempty
  have remaining : (fun other => if (deleteConfirmButton author
      history.state.confirmButtons other).isSome then history.stored other else none) =
        Function.update history.stored author none := by
    funext other
    by_cases same : other = author
    · simp [deleteConfirmButton, same]
    · cases otherStored : history.stored other with
      | none => simp [same, otherStored]
      | some otherId =>
          obtain ⟨sent, _, _, pending⟩ := (tracks.stored other otherId otherStored).shown
          simp [deleteConfirmButton, same, pending, otherStored]
  simp only [afterClick, carryOut, remaining, stored, removes, if_false]

theorem tracks_carryOut {history : History} (tracks : Tracks history) {author : Snowflake}
    {id : Nat} {command : SlashCommand} {embed : DiscordEmbedMsg} {confirm : ConfirmButton}
    (stored : history.stored author = some id)
    (numbered : history.commands[id]? = some command) (commanded : command.authorId = author)
    (reply : checkRolesHandler command = .accepted embed confirm) :
    Tracks (history.carryOut author id confirm) where
  lengths := tracks.lengths
  answered := tracks.answered
  missing := by
    intro other missing
    by_cases same : other = author
    · simp [carryOut, deleteConfirmButton, same]
    · simp only [carryOut, Function.update_of_ne same] at missing
      simpa [carryOut, deleteConfirmButton, same] using tracks.missing other missing
  stored := by
    intro other otherId otherStored
    by_cases same : other = author
    · simp [carryOut, same] at otherStored
    · simp only [carryOut, Function.update_of_ne same] at otherStored
      have before := tracks.stored other otherId otherStored
      obtain ⟨sent, present, sentBy, pending⟩ := before.shown
      refine ⟨⟨sent, present, sentBy, ?_⟩, before.newest, ?_⟩
      · simpa [carryOut, deleteConfirmButton, same] using pending
      · intro issue issued request
        rcases List.mem_append.mp issued with issued | issued
        · exact before.unissued issue issued request
        · obtain ⟨mine, minePresent, mineBy, _⟩ := (tracks.stored author id stored).shown
          rw [List.mem_singleton.mp issued, Option.some.injEq] at request
          rw [request, present, Option.some.injEq] at minePresent
          exact same (sentBy.symm.trans ((congrArg _ minePresent).trans mineBy))
  authorised := by
    intro issue issued
    rcases List.mem_append.mp issued with issued | issued
    · exact tracks.authorised issue issued
    · rw [List.mem_singleton.mp issued, ← commanded]
      exact authorised_of_accepted numbered reply
  once := by
    have fresh := (tracks.stored author id stored).fresh
    simp only [carryOut, List.map_append, List.map_cons, List.map_nil]
    exact tracks.once.append (List.nodup_singleton _)
      (List.disjoint_singleton.mpr fresh)

theorem tracks_step {history next : History} {event : Event} (tracks : Tracks history)
    (moved : history.step event = some next) : Tracks next := by
  cases transition_of_step moved with
  | rejected command => exact tracks
  | accepted command embed confirm reply => exact tracks_afterAccepted tracks reply
  | quiet message button user =>
      rw [tracks.afterClick_quiet]
      exact tracks
  | confirmed message sent confirm present pending =>
      obtain ⟨id, command, embed, stored, numbered, commanded, reply⟩ :=
        tracks.exists_stored pending
      rw [tracks.afterClick_confirmed stored (accepted_members_ne_nil reply)]
      exact tracks_carryOut tracks stored numbered commanded reply

theorem tracks_of_reached {events : List Event} {history : History}
    (reached : exec step start events = some history) : Tracks history :=
  exec_invariant_of_step tracks_step reached tracks_start

/-- The history runs beside the bot and never stops it. -/
theorem step_state (history : History) (event : Event) :
    (history.step event).map History.state = CheckRoles.step history.state event := by
  cases moved : CheckRoles.step history.state event with
  | none => simp [step, moved]
  | some state =>
      cases event with
      | checkRoles command =>
          simp only [step, moved, Option.map_some, Option.some.injEq]
          split <;> rfl
      | click message button user => simp [step, moved, afterClick]

theorem exists_history {events : List Event} {state : State}
    (reached : exec CheckRoles.step State.start events = some state) :
    ∃ history, exec step start events = some history ∧ history.state = state :=
  exists_exec_of_map step_state start reached

/-- What a click removes is what is stored under the clicking user, and that
request was not carried out before. -/
theorem Tracks.clickRemovals_stored {history : History} (tracks : Tracks history)
    {message : Nat} {button : Button} {user : Snowflake} {removals : List RoleRemoval}
    (clicked : history.state.clickRemovals message button user = some removals)
    (nonempty : removals ≠ []) :
    ∃ id confirm, history.stored user = some id ∧
      history.state.confirmButtons user = some confirm ∧ removals = confirm.removals ∧
        some id ∉ history.issued.map Issue.request ∧
          Authorised history.commands ⟨user, some id, removals⟩ := by
  cases present : history.state.messages[message]? with
  | none => simp [State.clickRemovals, State.click, present] at clicked
  | some sent =>
      cases button with
      | delete =>
          rw [State.delete_clickRemovals present, Option.some.injEq] at clicked
          exact absurd clicked.symm nonempty
      | confirm =>
          rw [confirm_clickRemovals present, Option.some.injEq] at clicked
          split_ifs at clicked
          · cases pending : history.state.confirmButtons user with
            | none =>
                simp only [pending, Option.map_none, Option.getD_none] at clicked
                exact absurd clicked.symm nonempty
            | some confirm =>
                simp only [pending, Option.map_some, Option.getD_some] at clicked
                subst clicked
                obtain ⟨id, command, embed, stored, numbered, rfl, reply⟩ :=
                  tracks.exists_stored pending
                exact ⟨id, confirm, stored, rfl, rfl, (tracks.stored _ id stored).fresh,
                  authorised_of_accepted numbered reply⟩
          · exact absurd clicked.symm nonempty

/-- After any commands and clicks, every removal that was issued, and every
removal a further click would issue, belongs to a stored request of the
clicking user for members with both roles, and no request is carried out
twice. -/
theorem removals_authorised {events : List Event} {state : State}
    (reached : exec CheckRoles.step State.start events = some state) :
    ∃ history, exec step start events = some history ∧ history.state = state ∧
      (∀ issue ∈ history.issued, Authorised history.commands issue) ∧
      (history.issued.map Issue.request).Nodup ∧
      ∀ message button user removals,
        state.clickRemovals message button user = some removals → removals ≠ [] →
          ∃ id confirm, history.stored user = some id ∧
            state.confirmButtons user = some confirm ∧ removals = confirm.removals ∧
              some id ∉ history.issued.map Issue.request ∧
                Authorised history.commands ⟨user, some id, removals⟩ := by
  obtain ⟨history, run, rfl⟩ := exists_history reached
  have tracks := tracks_of_reached run
  refine ⟨history, run, rfl, tracks.authorised, tracks.once, ?_⟩
  intro message button user removals clicked nonempty
  exact tracks.clickRemovals_stored clicked nonempty

/-- A confirmed request: its one removal is authorised. -/
theorem removals_authorised_confirmed :
    ∃ history, exec step start [.checkRoles (commandIn 10 100), .click 0 .confirm 1] =
        some history ∧
      history.issued = [⟨1, some 0, [⟨10, 100, 6⟩]⟩] ∧
        ∀ issue ∈ history.issued, Authorised history.commands issue := by
  obtain ⟨history, run, _, authorised, _⟩ :=
    @removals_authorised [.checkRoles (commandIn 10 100), .click 0 .confirm 1] _ rfl
  refine ⟨history, run, ?_, authorised⟩
  cases run
  decide

end History

end CheckRoles

end WarheadBot
