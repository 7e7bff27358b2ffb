import WarheadBot.DiscordEmbedMsg
import Mathlib.Data.List.TakeDrop

/-!
# The fields of an embed

A run of `AddEmbedField` calls keeps the calls with accepted lengths among the first
ones, since a call that is skipped for its lengths has been counted.  The embed of the
library has limits of its own, which no call that is passed on to it reaches.
-/

namespace WarheadBot

namespace DiscordEmbedMsg

/-- `utf8len` of the library; it ends at a zero. -/
def utf8len (text : String) : Nat :=
  (text.toList.takeWhile fun char => char ≠ '\x00').length

/-- `utf8substr` of the library from the beginning of a text on. -/
def utf8substr (text : String) (length : Nat) : String :=
  if utf8len text ≤ length then text else String.ofList (text.toList.take length)

/-- `add_field` of the library. -/
def addField (name value : String) (isInline : Bool) (fields : List EmbedField) :
    List EmbedField :=
  if fields.length < 25 then
    fields ++ [⟨utf8substr name 256, utf8substr value 1024, isInline⟩]
  else fields

/-- The lengths of a field are accepted. -/
def accepts (field : EmbedField) : Bool :=
  field.name.utf8ByteSize ≤ maxEmbedFieldsName && field.value.utf8ByteSize ≤ maxEmbedFieldsValue

def addEmbedFields (calls : List EmbedField) (msg : DiscordEmbedMsg) : DiscordEmbedMsg :=
  calls.foldl (fun current call => current.addEmbedField call.name call.value call.isInline) msg

theorem length_le_utf8ByteSize (text : String) : text.toList.length ≤ text.utf8ByteSize := by
  obtain ⟨chars, rfl⟩ := text.exists_eq_ofList
  rw [String.toList_ofList]
  induction chars with
  | nil => exact Nat.zero_le _
  | cons char chars ih =>
      rw [← List.singleton_append, String.ofList_append, String.utf8ByteSize_append,
        ← String.singleton_eq_ofList, String.utf8ByteSize_singleton, List.singleton_append,
        List.length_cons]
      have positive := char.utf8Size_pos
      omega

section Calls

variable {msg : DiscordEmbedMsg} {call : EmbedField}

theorem accepts_iff : accepts call = true ↔
    call.name.utf8ByteSize ≤ maxEmbedFieldsName ∧
      call.value.utf8ByteSize ≤ maxEmbedFieldsValue := by
  rw [accepts, Bool.and_eq_true, decide_eq_true_eq, decide_eq_true_eq]

theorem addEmbedField_of_accepts (room : msg.fieldsCount < maxEmbedFields)
    (accepted : accepts call = true) :
    msg.addEmbedField call.name call.value call.isInline =
      { msg with fieldsCount := msg.fieldsCount + 1, fields := msg.fields ++ [call] } := by
  obtain ⟨shortName, shortValue⟩ := accepts_iff.mp accepted
  unfold addEmbedField
  dsimp only
  rw [if_neg (Nat.not_lt.mpr room), if_neg (Nat.not_lt.mpr shortName),
    if_neg (Nat.not_lt.mpr shortValue)]

/-- A call that adds no field is counted all the same. -/
theorem addEmbedField_of_not
    (skipped : ¬ (msg.fieldsCount < maxEmbedFields ∧ accepts call = true)) :
    msg.addEmbedField call.name call.value call.isInline =
      { msg with fieldsCount := msg.fieldsCount + 1 } := by
  unfold addEmbedField
  dsimp only
  split_ifs with full longName longValue
  · rfl
  · rfl
  · rfl
  · exact absurd ⟨Nat.not_lt.mp full,
      accepts_iff.mpr ⟨Nat.not_lt.mp longName, Nat.not_lt.mp longValue⟩⟩ skipped

end Calls

/-- The fields of a run of calls are the accepted ones among the first calls. -/
theorem fields_addEmbedFields (calls : List EmbedField) (msg : DiscordEmbedMsg) :
    (addEmbedFields calls msg).fields =
      msg.fields ++ (calls.take (maxEmbedFields - msg.fieldsCount)).filter accepts := by
  induction calls generalizing msg with
  | nil => simp [addEmbedFields]
  | cons call calls ih =>
      unfold addEmbedFields at ih ⊢
      rw [List.foldl_cons, ih]
      by_cases room : msg.fieldsCount < maxEmbedFields
      · have left :
            maxEmbedFields - msg.fieldsCount = maxEmbedFields - (msg.fieldsCount + 1) + 1 := by
          omega
        rw [left, List.take_succ_cons]
        by_cases accepted : accepts call = true
        · rw [addEmbedField_of_accepts room accepted, List.filter_cons_of_pos accepted,
            List.append_assoc, List.singleton_append]
        · rw [addEmbedField_of_not (not_and_of_not_right _ accepted),
            List.filter_cons_of_neg accepted]
      · have full := Nat.not_lt.mp room
        rw [addEmbedField_of_not (not_and_of_not_left _ room), Nat.sub_eq_zero_of_le full]
        dsimp only
        rw [Nat.sub_eq_zero_of_le (Nat.le_succ_of_le full), List.take_zero, List.take_zero]

/-- The accepted elements among the first ones are the first of the accepted elements if
no accepted element comes after one that is missing. -/
theorem filter_take_eq_take_filter_iff {Element : Type} (accepted : Element → Bool)
    (elements : List Element) (count : Nat) :
    (elements.take count).filter accepted = (elements.filter accepted).take count ↔
      (∀ element ∈ elements.take count, accepted element = true) ∨
        ∀ element ∈ elements.drop count, ¬ accepted element = true := by
  have split : elements.filter accepted =
      (elements.take count).filter accepted ++ (elements.drop count).filter accepted := by
    rw [← List.filter_append, List.take_append_drop]
  have bound : ((elements.take count).filter accepted).length ≤ count :=
    Nat.le_trans (List.length_filter_le _ _) (List.length_take_le _ _)
  rw [split, List.take_append, List.take_of_length_le bound, List.self_eq_append_right,
    List.take_eq_nil_iff, List.filter_eq_nil_iff, Nat.sub_eq_zero_iff_le]
  apply or_congr_left'
  intro later
  have more : elements.drop count ≠ [] := by
    intro ended
    rw [ended] at later
    exact later fun _ inside => nomatch inside
  have full : (elements.take count).length = count := by
    rw [List.length_take, Nat.min_eq_left]
    exact Nat.le_of_not_ge fun few => more (List.drop_eq_nil_of_le few)
  rw [← List.length_filter_eq_length_iff, full]
  exact ⟨Nat.le_antisymm bound, fun same => Nat.le_of_eq same.symm⟩

/-- The fields are the first accepted ones of all calls exactly if no call was skipped for
its lengths among the first ones, or none is accepted behind them. -/
theorem fields_addEmbedFields_eq_iff (calls : List EmbedField) :
    (addEmbedFields calls {}).fields = (calls.filter accepts).take maxEmbedFields ↔
      (∀ call ∈ calls.take maxEmbedFields, accepts call = true) ∨
        ∀ call ∈ calls.drop maxEmbedFields, ¬ accepts call = true := by
  rw [fields_addEmbedFields, ← filter_take_eq_take_filter_iff]
  rfl

theorem not_accepts_of_long {field : EmbedField}
    (long : maxEmbedFieldsName < field.name.toList.length) : ¬ accepts field = true := by
  intro accepted
  have bytes := length_le_utf8ByteSize field.name
  exact Nat.not_le.mpr long (Nat.le_trans bytes (accepts_iff.mp accepted).1)

def namedField (length : Nat) : EmbedField :=
  ⟨String.ofList (List.replicate length 'a'), "value", false⟩

theorem length_name_namedField (length : Nat) :
    (namedField length).name.toList.length = length := by
  rw [namedField, String.toList_ofList, List.length_replicate]

/-- After a name that is too long by one byte, the last of the fields is missing. -/
theorem fields_namedField_ne :
    (addEmbedFields (namedField 257 :: List.replicate 24 (namedField 1)) {}).fields ≠
      ((namedField 257 :: List.replicate 24 (namedField 1)).filter accepts).take
        maxEmbedFields := by
  have long : ¬ accepts (namedField 257) = true := by
    apply not_accepts_of_long
    rw [length_name_namedField]
    exact Nat.lt_succ_self 256
  have short : accepts (namedField 1) = true := by decide
  have limit : maxEmbedFields - fieldsCount {} = 23 + 1 := rfl
  rw [fields_addEmbedFields, limit, List.take_succ_cons, List.take_replicate,
    List.filter_cons_of_neg long, List.filter_cons_of_neg long,
    List.filter_replicate_of_pos short, List.filter_replicate_of_pos short, List.take_replicate]
  intro same
  have lengths := congrArg List.length same
  rw [List.length_append, List.length_replicate, List.length_replicate] at lengths
  exact absurd lengths (by decide)

section Library

/-- A text has at least as many bytes as code points. -/
theorem utf8substr_of_le {text : String} {length : Nat} (short : text.utf8ByteSize ≤ length) :
    utf8substr text length = text := by
  have prefixLength : utf8len text ≤ text.toList.length :=
    (List.takeWhile_sublist _).length_le
  exact if_pos (Nat.le_trans prefixLength (Nat.le_trans (length_le_utf8ByteSize text) short))

theorem addField_of_accepts {field : EmbedField} {fields : List EmbedField}
    (room : fields.length < 25) (accepted : accepts field = true) :
    addField field.name field.value field.isInline fields = fields ++ [field] := by
  obtain ⟨shortName, shortValue⟩ := accepts_iff.mp accepted
  rw [maxEmbedFieldsName] at shortName
  rw [maxEmbedFieldsValue] at shortValue
  rw [addField, if_pos room, utf8substr_of_le shortName, utf8substr_of_le shortValue]

variable {msg : DiscordEmbedMsg} {call : EmbedField}

/-- A call that is not skipped adds what `add_field` adds. -/
theorem fields_addEmbedField (counted : msg.fields.length ≤ msg.fieldsCount) :
    (msg.addEmbedField call.name call.value call.isInline).fields =
      if msg.fieldsCount < maxEmbedFields ∧ accepts call = true then
        addField call.name call.value call.isInline msg.fields
      else msg.fields := by
  split_ifs with taken
  · obtain ⟨room, accepted⟩ := taken
    have library : msg.fields.length < 25 :=
      Nat.lt_of_le_of_lt counted (Nat.lt_trans room (by decide))
    rw [addEmbedField_of_accepts room accepted, addField_of_accepts library accepted]
  · rw [addEmbedField_of_not taken]

/-- No more fields are added than calls are counted. -/
theorem length_fields_addEmbedFields_le (calls : List EmbedField)
    (counted : msg.fields.length ≤ msg.fieldsCount) :
    (addEmbedFields calls msg).fields.length ≤ (addEmbedFields calls msg).fieldsCount := by
  unfold addEmbedFields
  induction calls generalizing msg with
  | nil => exact counted
  | cons call calls ih =>
      rw [List.foldl_cons]
      apply ih
      by_cases taken : msg.fieldsCount < maxEmbedFields ∧ accepts call = true
      · rw [addEmbedField_of_accepts taken.1 taken.2]
        dsimp only
        rw [List.length_append]
        exact Nat.succ_le_succ counted
      · rw [addEmbedField_of_not taken]
        exact Nat.le_succ_of_le counted

end Library

end DiscordEmbedMsg

end WarheadBot
