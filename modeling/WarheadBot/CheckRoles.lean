import WarheadBot.DiscordEmbedMsg
import WarheadBot.GuardedRuns
import Mathlib.Data.List.Perm.Basic

/-!
# The check-roles dialogue

A `/check-roles` command lists the members of a guild that have both the role
to keep and the role to delete, stores the request under its author and answers
with a message that shows the request and carries two buttons.  A click on a
button names its author in the button's identifier only; the request it acts
on is the one stored under the clicking user.

The bot handles one event at a time.  Messages stay clickable after any other
event: a deletion is only asked of the Discord server, which may refuse it.
-/

namespace WarheadBot

namespace CheckRoles

/-- A 64-bit identifier of a user, role, guild, channel or message. -/
abbrev Snowflake := UInt64

def decimal (id : Snowflake) : String := id.toNat.repr

structure ConfirmButton where
  keepRoleId : Snowflake
  deleteRoleId : Snowflake
  guildId : Snowflake
  members : List Snowflake
  deriving DecidableEq, Repr

/-- A `/check-roles` command together with what Discord answers while it is
handled: whether the two roles are known, and the members of the guild with
their roles in the order the returned map is walked. -/
structure SlashCommand where
  guildId : Snowflake
  channelId : Snowflake
  authorId : Snowflake
  roleKeep : Snowflake
  roleKeepKnown : Bool
  roleDel : Snowflake
  roleDelKnown : Bool
  guildMembers : List (Snowflake × List Snowflake)
  deriving DecidableEq, Repr

/-- The scan over the roles of one member; a role equal to the kept one is not
compared with the deleted one. -/
def scanRoles (keep delete : Snowflake) : List Snowflake → Bool × Bool → Bool × Bool
  | [], found => found
  | role :: roles, (foundKeep, foundDel) =>
      if role = keep then
        scanRoles keep delete roles (true, foundDel)
      else if role = delete then
        scanRoles keep delete roles (foundKeep, true)
      else
        scanRoles keep delete roles (foundKeep, foundDel)

def hasBothRoles (keep delete : Snowflake) (roles : List Snowflake) : Bool :=
  let found := scanRoles keep delete roles (false, false)
  found.1 && found.2

def roleMention (role : Snowflake) : String :=
  "<@&" ++ decimal role ++ "> (" ++ decimal role ++ ")"

/-- The numbered member lines; the counter of the source is a `uint8`. -/
def describeMembers : UInt8 → List Snowflake → DiscordEmbedMsg → DiscordEmbedMsg
  | _, [], msg => msg
  | index, member :: members, msg =>
      let next := index + 1
      describeMembers next members
        (msg.addDescription (next.toNat.repr ++ ". <@" ++ decimal member ++ ">\n"))

def requestEmbed (confirm : ConfirmButton) : DiscordEmbedMsg :=
  describeMembers 0 confirm.members
    (((({} : DiscordEmbedMsg).setTitle "Проверка ролей").setColor .indigo
      |>.addEmbedField "Оставить роль" (roleMention confirm.keepRoleId) false)
      |>.addEmbedField "Удалить роль" (roleMention confirm.deleteRoleId) false)

def rejection (description : String) : DiscordEmbedMsg :=
  ((({} : DiscordEmbedMsg).setTitle "Проверка ролей").setColor .red).setDescription description

inductive CheckRolesReply
  | rejected (embed : DiscordEmbedMsg)
  | accepted (embed : DiscordEmbedMsg) (confirm : ConfirmButton)
  deriving DecidableEq, Repr

/-- `CheckRolesHandler` up to `AddConfirmButton`.  The text for an unknown role
prints the null pointer of the failed lookup, not the identifier. -/
def checkRolesHandler (event : SlashCommand) : CheckRolesReply :=
  if !event.roleKeepKnown then
    .rejected (rejection "Указанной роли не существует: <@&0> (0)")
  else if !event.roleDelKnown then
    .rejected (rejection "Указанной роли не существует: <@&0> (0)")
  else if event.guildMembers.isEmpty then
    .rejected (rejection "Пользователи не найдены. Пустой сервер?")
  else
    let members := (event.guildMembers.filter fun member =>
      hasBothRoles event.roleKeep event.roleDel member.2).map Prod.fst
    if members.isEmpty then
      .rejected (rejection "Пользователи по условию не найдены")
    else
      let confirm : ConfirmButton :=
        { keepRoleId := event.roleKeep
          deleteRoleId := event.roleDel
          guildId := event.guildId
          members := members }
      .accepted (requestEmbed confirm) confirm

abbrev ConfirmButtons := Snowflake → Option ConfirmButton

def getConfirmButton (buttons : ConfirmButtons) (author : Snowflake) : Option ConfirmButton :=
  buttons author

/-- Both branches of the source, overwriting a found entry and inserting a new
one, store the request under its author. -/
def addConfirmButton (author : Snowflake) (confirm : ConfirmButton)
    (buttons : ConfirmButtons) : ConfirmButtons :=
  Function.update buttons author (some confirm)

def deleteConfirmButton (author : Snowflake) (buttons : ConfirmButtons) : ConfirmButtons :=
  Function.update buttons author none

inductive Button
  | confirm | delete
  deriving DecidableEq, Repr

def Button.suffix : Button → String
  | .confirm => "_Confirm"
  | .delete => "_Delete"

def Button.customId (button : Button) (author : Snowflake) : String :=
  decimal author ++ button.suffix

structure ButtonClick where
  channelId : Snowflake
  messageId : Nat
  userId : Snowflake
  customId : String
  deriving DecidableEq, Repr

structure RoleRemoval where
  guildId : Snowflake
  memberId : Snowflake
  roleId : Snowflake
  deriving DecidableEq, Repr

def ConfirmButton.removals (confirm : ConfirmButton) : List RoleRemoval :=
  confirm.members.map fun member => ⟨confirm.guildId, member, confirm.deleteRoleId⟩

/-- What handling a click does: the ephemeral answer, the message whose
deletion is asked for, and the role removals. -/
structure ClickReply where
  embed : DiscordEmbedMsg
  deleted : Option Nat := none
  removals : List RoleRemoval := []
  deriving DecidableEq, Repr

def clickEmbed (color : DiscordMessageColor) (description : String) : DiscordEmbedMsg :=
  ((({} : DiscordEmbedMsg).setTitle "Проверка ролей - Выполнение").setColor color).setDescription
    description

/-- The handler of `on_button_click`. -/
def onButtonClick (event : ButtonClick) (buttons : ConfirmButtons) :
    ClickReply × ConfirmButtons :=
  let isAuthor := (decimal event.userId).toList.isPrefixOf event.customId.toList
  let isConfirm := event.customId = Button.confirm.customId event.userId
  let isDelete := event.customId = Button.delete.customId event.userId
  if !isAuthor then
    ({ embed := clickEmbed .red "Вы не являетесь автором этого запроса" }, buttons)
  else if !isConfirm && !isDelete then
    ({ embed := clickEmbed .red "Странная ситуация, не могу понять, куда вы нажали о.о" }, buttons)
  else if isDelete then
    ({ embed := clickEmbed .indigo "Запрос удалён", deleted := some event.messageId }, buttons)
  else if !isConfirm then
    ({ embed := clickEmbed .red "Странная ситуация (2), не могу понять, куда вы нажали о.о" },
      buttons)
  else
    match getConfirmButton buttons event.userId with
    | none => ({ embed := clickEmbed .red "Не найден запрос на проверку" }, buttons)
    | some confirm =>
        ({ embed := clickEmbed .indigo "Запрос на сервер дискорда был отправлен"
           removals := confirm.removals },
          deleteConfirmButton event.userId buttons)

structure RequestMessage where
  channelId : Snowflake
  authorId : Snowflake
  embed : DiscordEmbedMsg
  request : ConfirmButton
  deriving DecidableEq, Repr

/-- The pending requests of the bot and the messages it has sent, oldest
first; the position of a message is its identifier. -/
structure State where
  confirmButtons : ConfirmButtons
  messages : List RequestMessage

def State.start : State := ⟨fun _ => none, []⟩

inductive Event
  | checkRoles (command : SlashCommand)
  | click (message : Nat) (button : Button) (user : Snowflake)
  deriving DecidableEq, Repr

/-- What handling the click of `user` on a button of a message does. -/
def State.click (state : State) (message : Nat) (button : Button) (user : Snowflake) :
    Option (ClickReply × ConfirmButtons) :=
  state.messages[message]?.map fun sent =>
    onButtonClick
      { channelId := sent.channelId
        messageId := message
        userId := user
        customId := button.customId sent.authorId }
      state.confirmButtons

def step (state : State) : Event → Option State
  | .checkRoles command =>
      match checkRolesHandler command with
      | .rejected _ => some state
      | .accepted embed confirm =>
          some
            { confirmButtons := addConfirmButton command.authorId confirm state.confirmButtons
              messages := state.messages ++
                [⟨command.channelId, command.authorId, embed, confirm⟩] }
  | .click message button user =>
      (state.click message button user).map fun handled =>
        { state with confirmButtons := handled.2 }

end CheckRoles

end WarheadBot
