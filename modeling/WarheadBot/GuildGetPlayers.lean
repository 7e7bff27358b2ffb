import WarheadBot.GuildPlayers

/-!
# Listing the guild

The callback of `GuildGetPlayersHandler` sends the members of a guild as embed
messages, one field for each of them.  From the 23rd member on a message is sent
before the field is added, but the message made after it is a new variable of
the inner block, so all fields go to the first message.  The counter has eight
bits.
-/

namespace WarheadBot

namespace GuildPlayers

def memberField (row : Row) : EmbedField :=
  ⟨row.nickname, "Спек: `" ++ row.gameSpec ++ "`. Илвл: `" ++ toString row.ilvl ++ "`", false⟩

def membersEmbed (color : DiscordMessageColor) : DiscordEmbedMsg :=
  (({} : DiscordEmbedMsg).setTitle "Участники гильдии").setColor color

/-- The loop of the callback: the message, the counter and the messages sent. -/
structure MemberList where
  msg : DiscordEmbedMsg
  count : UInt8
  sent : List DiscordEmbedMsg

def MemberList.start : MemberList := ⟨membersEmbed .indigo, 0, []⟩

def MemberList.add (list : MemberList) (row : Row) : MemberList where
  msg := list.msg.addEmbedField (memberField row).name (memberField row).value false
  count := list.count + 1
  sent := if 23 ≤ list.count + 1 then list.sent ++ [list.msg] else list.sent

def MemberList.addAll (list : MemberList) (rows : List Row) : MemberList :=
  rows.foldl MemberList.add list

/-- The callback: the answer, and the messages for the channel. -/
def guildGetPlayersCallback (result : List Row) : DiscordEmbedMsg × List DiscordEmbedMsg :=
  if result.isEmpty then
    ((membersEmbed .red).setDescription "Учаcтники не найдены", [])
  else
    let list := MemberList.start.addAll result
    ((membersEmbed .cyan).addEmbedField "Количество участников" (toString result.length) false,
      list.sent ++ [list.msg])

/-- Name and value of the field are within the limits of an embed. -/
def Row.FitsEmbed (row : Row) : Prop :=
  (memberField row).name.utf8ByteSize ≤ DiscordEmbedMsg.maxEmbedFieldsName ∧
    (memberField row).value.utf8ByteSize ≤ DiscordEmbedMsg.maxEmbedFieldsValue

instance : DecidablePred Row.FitsEmbed :=
  fun _ => inferInstanceAs (Decidable (_ ∧ _))

/-- The fields of all messages are those of the members, in this order, and no
message has more than 24. -/
def ListsMembers (rows : List Row) (messages : List DiscordEmbedMsg) : Prop :=
  messages.flatMap DiscordEmbedMsg.fields = rows.map memberField ∧
    ∀ msg ∈ messages, msg.fields.length ≤ DiscordEmbedMsg.maxEmbedFields

theorem addEmbedField_of_fits {msg : DiscordEmbedMsg} {row : Row} (fits : row.FitsEmbed)
    (room : msg.fieldsCount < DiscordEmbedMsg.maxEmbedFields) :
    (msg.addEmbedField (memberField row).name (memberField row).value false).fields =
      msg.fields ++ [memberField row] := by
  unfold DiscordEmbedMsg.addEmbedField
  dsimp only
  rw [if_neg (Nat.not_lt.mpr room), if_neg (Nat.not_lt.mpr fits.1),
    if_neg (Nat.not_lt.mpr fits.2)]
  rfl

theorem addEmbedField_of_full {msg : DiscordEmbedMsg} {name value : String}
    (full : DiscordEmbedMsg.maxEmbedFields ≤ msg.fieldsCount) :
    (msg.addEmbedField name value false).fields = msg.fields := by
  unfold DiscordEmbedMsg.addEmbedField
  dsimp only
  rw [if_pos (Nat.lt_succ_of_le full)]

@[simp]
theorem fieldsCount_addEmbedField (msg : DiscordEmbedMsg) (name value : String)
    (isInline : Bool) :
    (msg.addEmbedField name value isInline).fieldsCount = msg.fieldsCount + 1 := by
  unfold DiscordEmbedMsg.addEmbedField
  dsimp only
  split_ifs <;> rfl

/-- The fields in all messages that are sent so far or still being filled. -/
def MemberList.fieldsTotal (list : MemberList) : Nat :=
  (list.sent.flatMap DiscordEmbedMsg.fields).length + list.msg.fields.length

/-- What the loop has done after some rows. -/
structure MemberList.Filled (list : MemberList) (rows : List Row) : Prop where
  counted : list.msg.fieldsCount = rows.length
  counter : list.count.toNat = rows.length % 256
  fields : list.msg.fields = (rows.map memberField).take DiscordEmbedMsg.maxEmbedFields
  -- Nothing is sent for the first 22 rows.
  quiet : rows.length ≤ 22 → list.sent = []
  -- Later each message sent repeats at least 22 fields, which outweighs the
  -- rows for which the counter is small.
  surplus : 23 ≤ rows.length →
    (23 ≤ list.count.toNat → rows.length + 21 * (list.count.toNat - 22) ≤ list.fieldsTotal) ∧
      (list.count.toNat < 23 → rows.length + 23 - list.count.toNat ≤ list.fieldsTotal)

theorem MemberList.filled_start : MemberList.start.Filled [] where
  counted := rfl
  counter := rfl
  fields := rfl
  quiet := fun _ => rfl
  surplus := fun many => absurd many (by decide)

theorem MemberList.Filled.fields_length {list : MemberList} {rows : List Row}
    (filled : list.Filled rows) : list.msg.fields.length = min 24 rows.length := by
  rw [filled.fields, List.length_take, List.length_map]
  rfl

theorem MemberList.toNat_count_add (list : MemberList) (row : Row) :
    (list.add row).count.toNat = (list.count.toNat + 1) % 256 :=
  UInt8.toNat_add _ _

theorem MemberList.sent_add (list : MemberList) (row : Row) :
    (list.add row).sent =
      if 23 ≤ (list.count.toNat + 1) % 256 then list.sent ++ [list.msg] else list.sent := by
  have sends : 23 ≤ list.count + 1 ↔ 23 ≤ (list.count.toNat + 1) % 256 := by
    rw [UInt8.le_iff_toNat_le, UInt8.toNat_add]
    rfl
  simp only [MemberList.add, sends]

/-- A message that is sent adds its fields to the total. -/
theorem MemberList.fieldsTotal_add (list : MemberList) (row : Row) :
    (list.add row).fieldsTotal + list.msg.fields.length =
      list.fieldsTotal + (list.add row).msg.fields.length +
        if 23 ≤ (list.count.toNat + 1) % 256 then list.msg.fields.length else 0 := by
  unfold MemberList.fieldsTotal
  rw [sent_add]
  split_ifs
  · rw [List.flatMap_append, List.flatMap_singleton, List.length_append]
  · omega

theorem MemberList.Filled.add {list : MemberList} {rows : List Row} (filled : list.Filled rows)
    {row : Row} (fits : row.FitsEmbed) : (list.add row).Filled (rows ++ [row]) := by
  have fields : (list.add row).msg.fields =
      ((rows ++ [row]).map memberField).take DiscordEmbedMsg.maxEmbedFields := by
    by_cases room : rows.length < DiscordEmbedMsg.maxEmbedFields
    · have added : (list.add row).msg.fields = list.msg.fields ++ [memberField row] :=
        addEmbedField_of_fits fits (by rw [filled.counted]; exact room)
      rw [added, filled.fields, List.take_of_length_le (by simpa using Nat.le_of_lt room),
        List.take_of_length_le (by simpa using Nat.succ_le_of_lt room), List.map_append]
      rfl
    · have kept : (list.add row).msg.fields = list.msg.fields :=
        addEmbedField_of_full (by rw [filled.counted]; exact Nat.not_lt.mp room)
      rw [kept, filled.fields, List.map_append, List.take_append_of_le_length]
      simpa using Nat.not_lt.mp room
  have length : (rows ++ [row]).length = rows.length + 1 := by simp
  have counter := list.toNat_count_add row
  have newLength : (list.add row).msg.fields.length = min 24 (rows.length + 1) := by
    rw [fields, List.length_take, List.length_map, length]
    rfl
  have total := list.fieldsTotal_add row
  rw [newLength, filled.fields_length, filled.counter] at total
  have oldCounter := filled.counter
  refine ⟨?_, ?_, fields, ?_, ?_⟩
  · rw [length, ← filled.counted]
    exact fieldsCount_addEmbedField _ _ _ _
  · rw [counter, oldCounter, length]
    omega
  · intro few
    rw [length] at few
    rw [sent_add, if_neg (by omega), filled.quiet (by omega)]
  · intro many
    have base : rows.length = 22 → list.fieldsTotal = 22 := by
      intro exactly
      rw [MemberList.fieldsTotal, filled.quiet (by omega), filled.fields_length, exactly]
      rfl
    have surplus := filled.surplus
    rw [oldCounter] at surplus
    rw [length, counter, oldCounter]
    rw [length] at many
    split_ifs at total <;> omega

theorem MemberList.filled_addAll {list : MemberList} {before rows : List Row}
    (filled : list.Filled before) (fits : ∀ row ∈ rows, row.FitsEmbed) :
    (list.addAll rows).Filled (before ++ rows) := by
  induction rows generalizing list before with
  | nil => simpa [MemberList.addAll] using filled
  | cons row rows ih =>
      have next := ih (filled.add (fits row List.mem_cons_self))
        fun other member => fits other (List.mem_cons_of_mem _ member)
      rw [List.append_assoc, List.singleton_append] at next
      exact next

theorem listsMembers_of_few {list : MemberList} {rows : List Row} (filled : list.Filled rows)
    (few : rows.length ≤ 22) : ListsMembers rows (list.sent ++ [list.msg]) := by
  have bounded := filled.fields_length
  rw [filled.quiet few, List.nil_append]
  constructor
  · rw [List.flatMap_singleton, filled.fields]
    exact List.take_of_length_le (by simpa using Nat.le_trans few (by decide))
  · intro msg member
    rw [List.mem_singleton.mp member, bounded]
    exact Nat.min_le_left _ _

/-- More than 22 members leave more fields than members. -/
theorem not_listsMembers_of_many {list : MemberList} {rows : List Row}
    (filled : list.Filled rows) (many : 22 < rows.length) :
    ¬ ListsMembers rows (list.sent ++ [list.msg]) := by
  rintro ⟨fields, _⟩
  have total : list.fieldsTotal = rows.length := by
    have lengths := congrArg List.length fields
    rw [List.flatMap_append, List.flatMap_singleton, List.length_append, List.length_map]
      at lengths
    exact lengths
  obtain ⟨sending, quiet⟩ := filled.surplus many
  by_cases large : 23 ≤ list.count.toNat
  · have more := sending large
    omega
  · have more := quiet (Nat.not_le.mp large)
    omega

/-- The messages list the members of the guild, each of them once and in order,
if and only if there are at most 22. -/
theorem guildGetPlayers_lists_iff (rows : List Row) (fits : ∀ row ∈ rows, row.FitsEmbed) :
    ListsMembers rows (guildGetPlayersCallback rows).2 ↔ rows.length ≤ 22 := by
  have filled := MemberList.filled_addAll MemberList.filled_start fits
  rw [List.nil_append] at filled
  cases rows with
  | nil => simp [guildGetPlayersCallback, ListsMembers]
  | cons row rows =>
      constructor
      · intro lists
        by_contra many
        exact not_listsMembers_of_many filled (Nat.not_le.mp many) lists
      · exact listsMembers_of_few filled

def exampleRows (count : Nat) : List Row :=
  (List.range count).map fun number : Nat =>
    ⟨1, .ofNat number, String.ofList ('A' :: List.replicate number 'a'), 310, "маг"⟩

theorem guildGetPlayers_lists_22 :
    ListsMembers (exampleRows 22) (guildGetPlayersCallback (exampleRows 22)).2 :=
  (guildGetPlayers_lists_iff (exampleRows 22) (by decide)).mpr (by decide)

/-- With 23 members the first 22 are listed twice. -/
theorem guildGetPlayers_repeats_23 :
    (∀ row ∈ exampleRows 23, row.FitsEmbed) ∧
      ¬ ListsMembers (exampleRows 23) (guildGetPlayersCallback (exampleRows 23)).2 := by
  refine ⟨by decide, ?_⟩
  rintro ⟨fields, _⟩
  have lengths := congrArg List.length fields
  revert lengths
  decide

end GuildPlayers

end WarheadBot
