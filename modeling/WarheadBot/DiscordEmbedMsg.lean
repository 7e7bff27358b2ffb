import Mathlib.Data.List.Basic

/-!
# Embed messages

The `DiscordEmbedMsg` builder of the bot: a title, a colour, a description and
a list of fields.  The builder counts the calls of `AddEmbedField`, and a call
past the limit, or with a name or value that is too long, adds no field.  The
creation time that the constructor stores in the embed is left out.
-/

namespace WarheadBot

inductive DiscordMessageColor
  | blue | red | orange | purple | indigo | yellow | teal | cyan | gray | white
  deriving DecidableEq, Repr

structure EmbedField where
  name : String
  value : String
  isInline : Bool
  deriving DecidableEq, Repr

structure DiscordEmbedMsg where
  title : String := ""
  color : Option DiscordMessageColor := none
  description : String := ""
  fields : List EmbedField := []
  fieldsCount : Nat := 0
  deriving DecidableEq, Repr

namespace DiscordEmbedMsg

def maxEmbedFields : Nat := 24

def maxEmbedFieldsName : Nat := 256

def maxEmbedFieldsValue : Nat := 1024

def setTitle (title : String) (msg : DiscordEmbedMsg) : DiscordEmbedMsg :=
  { msg with title := title }

def setColor (color : DiscordMessageColor) (msg : DiscordEmbedMsg) : DiscordEmbedMsg :=
  { msg with color := some color }

/-- A description that is too long is only logged, not refused. -/
def setDescription (description : String) (msg : DiscordEmbedMsg) : DiscordEmbedMsg :=
  { msg with description := description }

def addDescription (description : String) (msg : DiscordEmbedMsg) : DiscordEmbedMsg :=
  { msg with description := msg.description ++ description }

/-- Lengths are counted in bytes, and the call is counted before any check. -/
def addEmbedField (name value : String) (isInline : Bool) (msg : DiscordEmbedMsg) :
    DiscordEmbedMsg :=
  let counted := { msg with fieldsCount := msg.fieldsCount + 1 }
  if counted.fieldsCount > maxEmbedFields then
    counted
  else if name.utf8ByteSize > maxEmbedFieldsName then
    counted
  else if value.utf8ByteSize > maxEmbedFieldsValue then
    counted
  else
    { counted with fields := counted.fields ++ [⟨name, value, isInline⟩] }

end DiscordEmbedMsg

end WarheadBot
