import WarheadBot.Config
import WarheadBot.PreparedStatement
import WarheadBot.TextPositions

/-!
# The text of a prepared statement

For its messages a statement replaces the question marks of its SQL text by its
parameters, one after the other and in place.  A parameter can be longer or shorter
than a question mark and have question marks of its own.
-/

namespace WarheadBot

namespace MySQL

open Config (Text)
open TextPositions (find replace find_append_cons replace_append_cons)

/-- The texts of floating-point numbers, from their bits. -/
structure FloatTexts where
  float : UInt32 → Text
  double : UInt64 → Text

def PreparedStatementData.toText (floats : FloatTexts) : PreparedStatementData → Text
  | bool value => (if value then "true" else "false").toList
  | uint8 value => value.toNat.repr.toList
  | uint16 value => value.toNat.repr.toList
  | uint32 value => value.toNat.repr.toList
  | uint64 value => value.toNat.repr.toList
  | int8 value => value.toInt.repr.toList
  | int16 value => value.toInt.repr.toList
  | int32 value => value.toInt.repr.toList
  | int64 value => value.toInt.repr.toList
  | float bits => floats.float bits
  | double bits => floats.double bits
  | string value => value.toList
  | binary _ => "BINARY".toList
  | null => "NULL".toList

section

variable {Data : Type} (toText : Data → Text)

/-- The loop over the parameters; there is no result if `replace` throws because no
question mark was found. -/
def replaceParameters : List Data → Text → Nat → Option Text
  | [], queryString, _ => some queryString
  | data :: parameters, queryString, pos =>
      match find '?' queryString pos with
      | none => none
      | some pos =>
          let replaceStr := toText data
          (replace queryString pos 1 replaceStr).bind fun replaced =>
            replaceParameters parameters replaced (pos + replaceStr.length)

def getQueryString (queryString : Text) (parameters : List Data) : Option Text :=
  replaceParameters toText parameters queryString 0

end

/-- A text that is put together again from the pieces it was cut into, with given texts
in the place of the first question marks. -/
def filled : List Text → List Text → Text
  | [], _ => []
  | [last], _ => last
  | piece :: next :: pieces, [] => piece ++ '?' :: filled (next :: pieces) []
  | piece :: next :: pieces, text :: texts => piece ++ text ++ filled (next :: pieces) texts

theorem filled_nil (pieces : List Text) : filled pieces [] = ['?'].intercalate pieces := by
  induction pieces with
  | nil => rfl
  | cons piece pieces ih =>
      cases pieces with
      | nil => simp [filled, List.intercalate]
      | cons next pieces => rw [filled, ih]; simp [List.intercalate]

theorem filled_cons {pieces : List Text} (more : pieces ≠ []) (piece text : Text)
    (texts : List Text) :
    filled (piece :: pieces) (text :: texts) = piece ++ text ++ filled pieces texts := by
  cases pieces with
  | nil => exact absurd rfl more
  | cons next pieces => rfl

section

variable {Data : Type} {toText : Data → Text}

/-- What is before the position is not changed any more, and in what is behind it each
question mark is still to be replaced. -/
theorem replaceParameters_eq {parameters : List Data} {before rest : Text}
    (enough : parameters.length ≤ rest.count '?') :
    replaceParameters toText parameters (before ++ rest) before.length =
      some (before ++ filled (rest.splitOn '?') (parameters.map toText)) := by
  induction parameters generalizing before rest with
  | nil =>
      rw [replaceParameters, List.map_nil, filled_nil, List.intercalate_splitOn]
  | cons data parameters ih =>
      rw [List.length_cons] at enough
      obtain ⟨middle, behind, rfl, absent⟩ :=
        List.eq_append_cons_of_mem (List.count_pos_iff.mp (Nat.zero_lt_of_lt enough))
      rw [List.count_append, List.count_eq_zero_of_not_mem absent, List.count_cons_self,
        Nat.zero_add] at enough
      have later := @ih (before ++ middle ++ toText data) behind (Nat.le_of_succ_le_succ enough)
      rw [List.length_append, List.length_append] at later
      rw [replaceParameters, find_append_cons absent]
      dsimp only
      rw [replace_append_cons, Option.bind_some, later,
        List.splitOn_append_cons_self_of_not_mem absent, List.map_cons,
        filled_cons (List.splitOn_ne_nil _ _)]
      simp only [List.append_assoc]

/-- The parameters stand where the first question marks were. -/
theorem getQueryString_eq (queryString : Text) (parameters : List Data)
    (enough : parameters.length ≤ queryString.count '?') :
    getQueryString toText queryString parameters =
      some (filled (queryString.splitOn '?') (parameters.map toText)) :=
  @replaceParameters_eq Data toText parameters [] queryString enough

end

def zeroTexts : FloatTexts where
  float _ := "0".toList
  double _ := "0".toList

theorem getQueryString_example :
    getQueryString (PreparedStatementData.toText zeroTexts)
        "SELECT ??, name = ? OR '?'".toList [.string "a?b", .string "", .null] =
      some "SELECT a?b, name = NULL OR '?'".toList :=
  (getQueryString_eq _ _ (by decide)).trans (by rfl)

end MySQL

end WarheadBot
