import WarheadBot.DiscordEmbedMsg
import WarheadBot.CheckRoles
import WarheadBot.Parties

/-!
# Joining and leaving the guild list

The bot keeps the characters of a guild in the table `guild_players`.  A join
form asks the database whether the nickname is taken, and its callback on the
main loop enqueues the `INSERT`; a deletion reads all nicknames of the guild,
and its callback enqueues a `DELETE` for the first one that matches.  Each of
these statements runs on some asynchronous connection later, so the steps of
different requests interleave freely.
-/

namespace WarheadBot

namespace GuildPlayers

open CheckRoles (Snowflake)

/-- A row of `guild_players`; the column `twinks` keeps its default. -/
structure Row where
  guildId : Snowflake
  userId : Snowflake
  nickname : String
  ilvl : Int
  gameSpec : String
  deriving DecidableEq, Repr

def wcharToLower (wchar : Char) : Char :=
  let code := wchar.toNat
  if 'A'.toNat ≤ code ∧ code ≤ 'Z'.toNat then Char.ofNat (code + 0x0020)
  else if 0x00C0 ≤ code ∧ code ≤ 0x00D6 then Char.ofNat (code + 0x0020)
  else if 0x00D8 ≤ code ∧ code ≤ 0x00DE then Char.ofNat (code + 0x0020)
  else if 0x0100 ≤ code ∧ code ≤ 0x012E ∧ code % 2 = 0 then Char.ofNat (code + 0x0001)
  else if code = 0x1E9E then Char.ofNat 0x00DF
  else if code = 0x0401 then Char.ofNat 0x0451
  else if 0x0410 ≤ code ∧ code ≤ 0x042F then Char.ofNat (code + 0x0020)
  else wchar

def wcharToUpper (wchar : Char) : Char :=
  let code := wchar.toNat
  if 'a'.toNat ≤ code ∧ code ≤ 'z'.toNat then Char.ofNat (code - 0x0020)
  else if code = 0x00DF then Char.ofNat 0x1E9E
  else if 0x00E0 ≤ code ∧ code ≤ 0x00F6 then Char.ofNat (code - 0x0020)
  else if 0x00F8 ≤ code ∧ code ≤ 0x00FE then Char.ofNat (code - 0x0020)
  else if 0x0101 ≤ code ∧ code ≤ 0x012F ∧ code % 2 = 1 then Char.ofNat (code - 0x0001)
  else if 0x0430 ≤ code ∧ code ≤ 0x044F then Char.ofNat (code - 0x0020)
  else if code = 0x0451 then Char.ofNat 0x0401
  else wchar

def capitalize : List Char → List Char
  | [] => []
  | first :: rest => wcharToUpper first :: rest

/-- Whether the name is acceptable, and the name afterwards: a name that is
empty or has a space is left as it was. -/
def normalizePlayerName (name : String) : Bool × String :=
  if name.isEmpty then (false, name)
  else if name.toList.contains ' ' then (false, name)
  else (true, String.ofList (capitalize (name.toList.map wcharToLower)))

/-- The digits read by `std::from_chars`, all of them and at least one. -/
def decimalDigits (digits : List Char) : Option Nat :=
  if digits.isEmpty || !digits.all Char.isDigit then none
  else some (digits.foldl (fun value digit => 10 * value + (digit.toNat - '0'.toNat)) 0)

/-- `StringTo<int32>`: the whole text must be a number in range; a plus sign
is not accepted. -/
def stringToInt32 (text : String) : Option Int :=
  match text.toList with
  | '-' :: digits =>
      (decimalDigits digits).bind fun value =>
        if value ≤ 2147483648 then some (-(value : Int)) else none
  | digits =>
      (decimalDigits digits).bind fun value =>
        if value ≤ 2147483647 then some (value : Int) else none

/-- Comparison byte by byte under `std::tolower`, which changes ASCII letters
only. -/
def stringEqualI (first second : String) : Bool :=
  first.toList.map Char.toLower = second.toList.map Char.toLower

structure FormSubmit where
  guildId : Snowflake
  userId : Snowflake
  channelId : Snowflake
  nickName : String
  gameSpec : String
  ilvlStr : String
  deriving DecidableEq, Repr

/-- The arguments `AddGuildNickName` keeps for its callback. -/
structure Join where
  guildId : Snowflake
  userId : Snowflake
  channelId : Snowflake
  saveNickName : String
  gameSpec : String
  ilvl : Int
  deriving DecidableEq, Repr

def joinEmbed (color : DiscordMessageColor) (description : String) : DiscordEmbedMsg :=
  ((({} : DiscordEmbedMsg).setTitle "Вступление в гильдию").setColor color).setDescription
    description

/-- `AddGuildNickName` up to the query. -/
def addGuildNickName (guildId userId channelId : Snowflake) (nickName gameSpec : String)
    (ilvl : Int) : Join :=
  ⟨guildId, userId, channelId, (normalizePlayerName nickName).2, gameSpec, ilvl⟩

/-- The handler of `on_form_submit`: the ephemeral answer, and the request that
is passed on. -/
def onFormSubmit (event : FormSubmit) : DiscordEmbedMsg × Option Join :=
  let (valid, nickName) := normalizePlayerName event.nickName
  if !valid then
    (joinEmbed .red ("Введённый ник `" ++ nickName ++ "` некорректный"), none)
  else
    match stringToInt32 event.ilvlStr with
    | none =>
        (joinEmbed .red
          ("Введённый уровень предметов `" ++ event.ilvlStr ++ "` некорректный"), none)
    | some avgIlvl =>
        ((((joinEmbed .cyan "Запрос на выдачу роли отправлен"
            |>.addEmbedField "Ник в гильдии" nickName false)
            |>.addEmbedField "Специализация" event.gameSpec false)
            |>.addEmbedField "Уровень предметов" event.ilvlStr false),
          some (addGuildNickName event.guildId event.userId event.channelId nickName
            event.gameSpec avgIlvl))

/-- The callback of the `SELECT` in `AddGuildNickName`: the message for the
channel, and the row it enqueues an `INSERT` for. -/
def addGuildNickNameCallback (join : Join) (result : Bool) : DiscordEmbedMsg × Option Row :=
  if result then
    (joinEmbed .red ("Персонаж `" ++ join.saveNickName ++ "` уже есть в базе"), none)
  else
    (joinEmbed .indigo ("Персонаж `" ++ join.saveNickName ++ "` был добавлен в базу."),
      some ⟨join.guildId, join.userId, join.saveNickName, join.ilvl, join.gameSpec⟩)

/-- What `GuildDelHandler` keeps for its callback; an unacceptable name is used
as it was typed. -/
structure Removal where
  guildId : Snowflake
  targetNickname : String
  deriving DecidableEq, Repr

def guildDelHandler (guildId : Snowflake) (nickname : String) : Removal :=
  ⟨guildId, (normalizePlayerName nickname).2⟩

def delEmbed (color : DiscordMessageColor) (description : String) : DiscordEmbedMsg :=
  ((({} : DiscordEmbedMsg).setTitle "Удаление учатника гильдии").setColor color).setDescription
    description

/-- The callback of the `SELECT` in `GuildDelHandler`: the answer, and the
nickname it enqueues a `DELETE` for, spelled as in the table. -/
def guildDelCallback (removal : Removal) (result : List Row) :
    DiscordEmbedMsg × Option String :=
  if result.isEmpty then
    (delEmbed .red "Учаcтники не найдены", none)
  else
    match result.find? fun row => stringEqualI row.nickname removal.targetNickname with
    | some row =>
        ((delEmbed .yellow "Игрок удалён из базы").addEmbedField row.nickname
            ("Спек: `" ++ row.gameSpec ++ "`. Илвл: `" ++ toString row.ilvl ++ "`") false,
          some row.nickname)
    | none =>
        (delEmbed .yellow ("Игрок `" ++ removal.targetNickname ++ "` не найден в базе"), none)

/-- The rows of one nickname of a guild, the condition of the prepared
statements. -/
def Row.isNamed (guildId : Snowflake) (nickname : String) (row : Row) : Bool :=
  row.guildId = guildId && row.nickname = nickname

def Row.samePrimaryKey (row other : Row) : Bool :=
  row.guildId = other.guildId && row.userId = other.userId && row.nickname = other.nickname

/-- `DISCORD_INS_NICKNAME`: a row with a primary key that exists is refused. -/
def insertRow (row : Row) (table : List Row) : List Row :=
  if table.any row.samePrimaryKey then table else table ++ [row]

/-- `DISCORD_DEL_NICKNAME`. -/
def deleteRows (guildId : Snowflake) (nickname : String) (table : List Row) : List Row :=
  table.filter fun row => !row.isNamed guildId nickname

/-- A request on its way: a statement that waits for a connection, or a result
that waits for its callback. -/
inductive Request
  | selecting (join : Join)
  | selected (join : Join) (result : Bool)
  | inserting (row : Row)
  | listing (removal : Removal)
  | listed (removal : Removal) (result : List Row)
  | deleting (guildId : Snowflake) (nickname : String)
  | finished
  deriving DecidableEq, Repr

/-- How a request proceeds: its statement is executed or fails, a list of rows
is returned in the order of the server, or the main loop runs its callback. -/
inductive Move
  | execute (succeeds : Bool)
  | answer (rows : List Row)
  | callback
  deriving DecidableEq, Repr

/-- A failed `SELECT` and one without rows both hand a null result to the
callback. -/
def Request.move (move : Move) (table : List Row) : Request → Option (List Row × Request)
  | .selecting join =>
      match move with
      | .execute succeeds =>
          some (table, .selected join
            (succeeds && table.any (Row.isNamed join.guildId join.saveNickName)))
      | _ => none
  | .selected join result =>
      match move with
      | .callback =>
          match (addGuildNickNameCallback join result).2 with
          | some row => some (table, .inserting row)
          | none => some (table, .finished)
      | _ => none
  | .inserting row =>
      match move with
      | .execute succeeds => some (if succeeds then insertRow row table else table, .finished)
      | _ => none
  | .listing removal =>
      match move with
      | .execute false => some (table, .listed removal [])
      | .answer rows =>
          if rows.Perm (table.filter fun row => row.guildId = removal.guildId) then
            some (table, .listed removal rows)
          else none
      | _ => none
  | .listed removal result =>
      match move with
      | .callback =>
          match (guildDelCallback removal result).2 with
          | some nickname => some (table, .deleting removal.guildId nickname)
          | none => some (table, .finished)
      | _ => none
  | .deleting guildId nickname =>
      match move with
      | .execute succeeds =>
          some (if succeeds then deleteRows guildId nickname table else table, .finished)
      | _ => none
  | .finished => none

structure State where
  table : List Row
  requests : List Request
  deriving DecidableEq, Repr

def State.start (table : List Row) : State := ⟨table, []⟩

inductive Label
  | formSubmit (event : FormSubmit)
  | guildDel (guildId : Snowflake) (nickname : String)
  | move (index : Nat) (move : Move)
  deriving DecidableEq, Repr

def step (state : State) : Label → Option State
  | .formSubmit event =>
      match (onFormSubmit event).2 with
      | some join => some { state with requests := state.requests ++ [.selecting join] }
      | none => some state
  | .guildDel guildId nickname =>
      some { state with
        requests := state.requests ++ [.listing (guildDelHandler guildId nickname)] }
  | .move index move =>
      (Parties.moveAt (Request.move move) state.table state.requests index).map fun result =>
        ⟨result.1, result.2⟩

end GuildPlayers

end WarheadBot
