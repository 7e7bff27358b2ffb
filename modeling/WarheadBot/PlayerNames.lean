import WarheadBot.GuildPlayers
import WarheadBot.LetterCase
import WarheadBot.Utf8

/-!
# Normalizing a player name

`NormalizePlayerName` on the octets of a name, by way of 16-bit units.  The two
case maps are the tables of `Util.h`; they give every name one spelling, and on
the octets of a text it is the one that `GuildPlayers.normalizePlayerName` gives
the text.
-/

namespace WarheadBot

namespace PlayerNames

open Utf8 (utf8to16 utf16to8)

def wcharToLower (wchar : UInt16) : UInt16 :=
  if 'A'.toNat ≤ wchar.toNat ∧ wchar.toNat ≤ 'Z'.toNat then wchar + 0x0020
  else if 0x00C0 ≤ wchar.toNat ∧ wchar.toNat ≤ 0x00D6 then wchar + 0x0020
  else if 0x00D8 ≤ wchar.toNat ∧ wchar.toNat ≤ 0x00DE then wchar + 0x0020
  else if 0x0100 ≤ wchar.toNat ∧ wchar.toNat ≤ 0x012E ∧ wchar.toNat % 2 = 0 then wchar + 0x0001
  else if wchar.toNat = 0x1E9E then 0x00DF
  else if wchar.toNat = 0x0401 then 0x0451
  else if 0x0410 ≤ wchar.toNat ∧ wchar.toNat ≤ 0x042F then wchar + 0x0020
  else wchar

def wcharToUpper (wchar : UInt16) : UInt16 :=
  if 'a'.toNat ≤ wchar.toNat ∧ wchar.toNat ≤ 'z'.toNat then wchar - 0x0020
  else if wchar.toNat = 0x00DF then 0x1E9E
  else if 0x00E0 ≤ wchar.toNat ∧ wchar.toNat ≤ 0x00F6 then wchar - 0x0020
  else if 0x00F8 ≤ wchar.toNat ∧ wchar.toNat ≤ 0x00FE then wchar - 0x0020
  else if 0x0101 ≤ wchar.toNat ∧ wchar.toNat ≤ 0x012F ∧ wchar.toNat % 2 = 1 then wchar - 0x0001
  else if 0x0430 ≤ wchar.toNat ∧ wchar.toNat ≤ 0x044F then wchar - 0x0020
  else if wchar.toNat = 0x0451 then 0x0401
  else wchar

def capitalize : List UInt16 → List UInt16
  | [] => []
  | first :: rest => wcharToUpper first :: rest

/-- Whether the name is acceptable, and the name afterwards; `Utf8toWStr` and
`WStrToUtf8` turn an exception into a refusal, and the second clears the name. -/
def normalizePlayerName (name : List UInt8) : Bool × List UInt8 :=
  if name.isEmpty then (false, name)
  else if name.contains 0x20 then (false, name)
  else
    match utf8to16 name with
    | none => (false, name)
    | some tmp =>
        match utf16to8 (capitalize (tmp.map wcharToLower)) with
        | some utf8str => (true, utf8str)
        | none => (false, [])

/-- The table of `wcharToLower` as numbers. -/
def lowerCode (code : Nat) : Nat :=
  if 0x41 ≤ code ∧ code ≤ 0x5A then code + 0x20
  else if 0x00C0 ≤ code ∧ code ≤ 0x00D6 then code + 0x20
  else if 0x00D8 ≤ code ∧ code ≤ 0x00DE then code + 0x20
  else if 0x0100 ≤ code ∧ code ≤ 0x012E ∧ code % 2 = 0 then code + 1
  else if code = 0x1E9E then 0x00DF
  else if code = 0x0401 then 0x0451
  else if 0x0410 ≤ code ∧ code ≤ 0x042F then code + 0x20
  else code

/-- The table of `wcharToUpper` as numbers. -/
def upperCode (code : Nat) : Nat :=
  if 0x61 ≤ code ∧ code ≤ 0x7A then code - 0x20
  else if code = 0x00DF then 0x1E9E
  else if 0x00E0 ≤ code ∧ code ≤ 0x00F6 then code - 0x20
  else if 0x00F8 ≤ code ∧ code ≤ 0x00FE then code - 0x20
  else if 0x0101 ≤ code ∧ code ≤ 0x012F ∧ code % 2 = 1 then code - 1
  else if 0x0430 ≤ code ∧ code ≤ 0x044F then code - 0x20
  else if code = 0x0451 then 0x0401
  else code

/-- A capital and its small letter in the tables. -/
def CasePair (capital small : Nat) : Prop :=
  (0x41 ≤ capital ∧ capital ≤ 0x5A ∨ 0x00C0 ≤ capital ∧ capital ≤ 0x00D6 ∨
    0x00D8 ≤ capital ∧ capital ≤ 0x00DE ∨ 0x0410 ≤ capital ∧ capital ≤ 0x042F) ∧
      small = capital + 0x20 ∨
    0x0100 ≤ capital ∧ capital ≤ 0x012E ∧ capital % 2 = 0 ∧ small = capital + 1 ∨
    capital = 0x1E9E ∧ small = 0x00DF ∨ capital = 0x0401 ∧ small = 0x0451

theorem casePair_lowerCode (code : Nat) :
    lowerCode code = code ∨ CasePair code (lowerCode code) := by
  unfold lowerCode CasePair
  split_ifs <;> omega

theorem casePair_upperCode (code : Nat) :
    upperCode code = code ∨ CasePair (upperCode code) code := by
  unfold upperCode CasePair
  split_ifs <;> omega

theorem CasePair.lowerCode_capital {capital small : Nat} (pair : CasePair capital small) :
    lowerCode capital = small := by
  unfold CasePair at pair
  unfold lowerCode
  split_ifs <;> omega

theorem CasePair.lowerCode_small {capital small : Nat} (pair : CasePair capital small) :
    lowerCode small = small := by
  unfold CasePair at pair
  unfold lowerCode
  split_ifs <;> omega

theorem lowerCode_lowerCode (code : Nat) : lowerCode (lowerCode code) = lowerCode code := by
  obtain same | pair := casePair_lowerCode code
  · rw [same, same]
  · exact pair.lowerCode_small

theorem lowerCode_upperCode (code : Nat) : lowerCode (upperCode code) = lowerCode code := by
  obtain same | pair := casePair_upperCode code
  · rw [same]
  · rw [pair.lowerCode_capital, pair.lowerCode_small]

theorem lowerCode_of_large {code : Nat} (large : 0x1E9E < code) : lowerCode code = code := by
  unfold lowerCode
  split_ifs <;> omega

theorem upperCode_of_large {code : Nat} (large : 0x1E9E < code) : upperCode code = code := by
  unfold upperCode
  split_ifs <;> omega

theorem lowerCode_le {code : Nat} (small : code ≤ 0xffff) : lowerCode code ≤ 0xffff := by
  unfold lowerCode
  split_ifs <;> omega

theorem upperCode_le {code : Nat} (small : code ≤ 0xffff) : upperCode code ≤ 0xffff := by
  unfold upperCode
  split_ifs <;> omega

theorem lowerCode_eq_space_iff {code : Nat} : lowerCode code = 0x20 ↔ code = 0x20 := by
  unfold lowerCode
  split_ifs <;> omega

theorem upperCode_eq_space_iff {code : Nat} : upperCode code = 0x20 ↔ code = 0x20 := by
  unfold upperCode
  split_ifs <;> omega

theorem toNat_wcharToLower (wchar : UInt16) :
    (wcharToLower wchar).toNat = lowerCode wchar.toNat := by
  have step {distance : UInt16} (short : distance.toNat ≤ 0x20) (small : wchar.toNat ≤ 0x1E9E) :
      (wchar + distance).toNat = wchar.toNat + distance.toNat := by
    rw [UInt16.toNat_add]
    omega
  unfold wcharToLower lowerCode
  simp only [show 'A'.toNat = 0x41 from rfl, show 'Z'.toNat = 0x5A from rfl]
  split_ifs
  · exact step (by decide) (by omega)
  · exact step (by decide) (by omega)
  · exact step (by decide) (by omega)
  · exact step (by decide) (by omega)
  · rfl
  · rfl
  · exact step (by decide) (by omega)
  · rfl

theorem toNat_wcharToUpper (wchar : UInt16) :
    (wcharToUpper wchar).toNat = upperCode wchar.toNat := by
  have step {distance : UInt16} (short : distance.toNat ≤ 0x20) (large : 0x61 ≤ wchar.toNat) :
      (wchar - distance).toNat = wchar.toNat - distance.toNat :=
    UInt16.toNat_sub_of_le _ _ (UInt16.le_iff_toNat_le.mpr (by omega))
  unfold wcharToUpper upperCode
  simp only [show 'a'.toNat = 0x61 from rfl, show 'z'.toNat = 0x7A from rfl]
  split_ifs
  · exact step (by decide) (by omega)
  · rfl
  · exact step (by decide) (by omega)
  · exact step (by decide) (by omega)
  · exact step (by decide) (by omega)
  · exact step (by decide) (by omega)
  · rfl
  · rfl

def wcharCase : LetterCase UInt16 where
  lower := wcharToLower
  upper := wcharToUpper
  lower_lower wchar := by
    rw [← UInt16.toNat_inj, toNat_wcharToLower, toNat_wcharToLower, lowerCode_lowerCode]
  lower_upper wchar := by
    rw [← UInt16.toNat_inj, toNat_wcharToLower, toNat_wcharToUpper, toNat_wcharToLower,
      lowerCode_upperCode]

theorem canonical_eq_capitalize (wide : List UInt16) :
    wcharCase.canonical wide = capitalize (wide.map wcharToLower) := by
  cases wide <;> rfl

/-- A name is accepted if it has an octet, no space and a decoding whose normal
form is text again. -/
theorem normalizePlayerName_eq_true_iff {name result : List UInt8} :
    normalizePlayerName name = (true, result) ↔
      name ≠ [] ∧ 0x20 ∉ name ∧ ∃ wide : List UInt16,
        utf8to16 name = some wide ∧ utf16to8 (wcharCase.canonical wide) = some result := by
  unfold normalizePlayerName
  split_ifs with empty space
  · rw [List.isEmpty_iff] at empty
    simp [empty]
  · rw [List.contains_iff_mem] at space
    simp [space]
  · rw [List.isEmpty_iff] at empty
    rw [List.contains_iff_mem] at space
    cases utf8to16 name with
    | none => simp
    | some wide =>
        simp only [Option.some.injEq, exists_eq_left', ← canonical_eq_capitalize]
        cases utf16to8 (wcharCase.canonical wide) with
        | none => simp
        | some written => simp [empty, space]

theorem wcharToLower_eq_space_iff (wchar : UInt16) :
    wcharToLower wchar = 0x20 ↔ wchar = 0x20 := by
  rw [← UInt16.toNat_inj, ← UInt16.toNat_inj, toNat_wcharToLower]
  exact lowerCode_eq_space_iff

theorem wcharToUpper_eq_space_iff (wchar : UInt16) :
    wcharToUpper wchar = 0x20 ↔ wchar = 0x20 := by
  rw [← UInt16.toNat_inj, ← UInt16.toNat_inj, toNat_wcharToUpper]
  exact upperCode_eq_space_iff

theorem space_mem_canonical_iff {wide : List UInt16} :
    0x20 ∈ wcharCase.canonical wide ↔ 0x20 ∈ wide :=
  wcharCase.mem_canonical_iff wcharToLower_eq_space_iff wcharToUpper_eq_space_iff

/-- The normal form of an accepted name is accepted and stays. -/
theorem normalizePlayerName_idem {name result : List UInt8}
    (accepted : normalizePlayerName name = (true, result)) :
    normalizePlayerName result = (true, result) := by
  rw [normalizePlayerName_eq_true_iff] at accepted ⊢
  obtain ⟨some, noSpace, wide, decoded, written⟩ := accepted
  have back := Utf8.utf8to16_iff_utf16to8.mpr written
  refine ⟨?_, ?_, wcharCase.canonical wide, back, ?_⟩
  · rw [Ne, Utf8.octets_eq_nil_iff back, wcharCase.canonical_eq_nil_iff,
      ← Utf8.octets_eq_nil_iff decoded]
    exact some
  · rw [Utf8.space_mem_octets_iff back, space_mem_canonical_iff,
      ← Utf8.space_mem_octets_iff decoded]
    exact noSpace
  · rw [wcharCase.canonical_canonical]
    exact written

/-- Two accepted names have the same normal form if they differ in the letter
cases only. -/
theorem normalizePlayerName_eq_iff {name other result otherResult : List UInt8}
    (accepted : normalizePlayerName name = (true, result))
    (otherAccepted : normalizePlayerName other = (true, otherResult)) :
    result = otherResult ↔
      (utf8to16 name).map (List.map wcharToLower) =
        (utf8to16 other).map (List.map wcharToLower) := by
  rw [normalizePlayerName_eq_true_iff] at accepted otherAccepted
  obtain ⟨-, -, wide, decoded, written⟩ := accepted
  obtain ⟨-, -, otherWide, otherDecoded, otherWritten⟩ := otherAccepted
  rw [decoded, otherDecoded, Option.map_some, Option.map_some, Option.some.injEq]
  have canonical := @LetterCase.canonical_eq_iff _ wcharCase wide otherWide
  rw [show wcharCase.lower = wcharToLower from rfl] at canonical
  rw [← canonical]
  constructor
  · intro same
    rw [← same] at otherWritten
    have back := Utf8.utf8to16_iff_utf16to8.mpr written
    rw [Utf8.utf8to16_iff_utf16to8.mpr otherWritten, Option.some.injEq] at back
    exact back.symm
  · intro same
    rw [same, otherWritten, Option.some.injEq] at written
    exact written.symm

theorem toNat_ofNat_of_valid {code : Nat} (valid : code.isValidChar) :
    (Char.ofNat code).toNat = code := by
  rw [Char.ofNat, dif_pos valid]
  rfl

theorem CasePair.lt {capital small : Nat} (pair : CasePair capital small) :
    capital < 0xd800 ∧ small < 0xd800 := by
  unfold CasePair at pair
  omega

/-- On characters the tables are those of numbers. -/
theorem lowerChar_eq (char : Char) :
    GuildPlayers.wcharToLower char = Char.ofNat (lowerCode char.toNat) := by
  unfold GuildPlayers.wcharToLower lowerCode
  simp only [apply_ite Char.ofNat, Char.ofNat_toNat]
  rfl

theorem upperChar_eq (char : Char) :
    GuildPlayers.wcharToUpper char = Char.ofNat (upperCode char.toNat) := by
  unfold GuildPlayers.wcharToUpper upperCode
  simp only [apply_ite Char.ofNat, Char.ofNat_toNat]
  rfl

theorem toNat_lowerChar (char : Char) :
    (GuildPlayers.wcharToLower char).toNat = lowerCode char.toNat := by
  rw [lowerChar_eq]
  apply toNat_ofNat_of_valid
  obtain same | pair := casePair_lowerCode char.toNat
  · rw [same]
    exact char.valid
  · exact Or.inl pair.lt.2

theorem toNat_upperChar (char : Char) :
    (GuildPlayers.wcharToUpper char).toNat = upperCode char.toNat := by
  rw [upperChar_eq]
  apply toNat_ofNat_of_valid
  obtain same | pair := casePair_upperCode char.toNat
  · rw [same]
    exact char.valid
  · exact Or.inl pair.lt.1

def charCase : LetterCase Char where
  lower := GuildPlayers.wcharToLower
  upper := GuildPlayers.wcharToUpper
  lower_lower char := by
    rw [← Char.toNat_inj, toNat_lowerChar, toNat_lowerChar, lowerCode_lowerCode]
  lower_upper char := by
    rw [← Char.toNat_inj, toNat_lowerChar, toNat_upperChar, toNat_lowerChar,
      lowerCode_upperCode]

theorem normalizePlayerName_text (name : String) :
    GuildPlayers.normalizePlayerName name =
      if name.toList = [] ∨ ' ' ∈ name.toList then (false, name)
      else (true, String.ofList (charCase.canonical name.toList)) := by
  have canonical : GuildPlayers.capitalize (name.toList.map GuildPlayers.wcharToLower) =
      charCase.canonical name.toList := by
    cases name.toList <;> rfl
  unfold GuildPlayers.normalizePlayerName
  rw [canonical]
  by_cases empty : name.isEmpty
  · rw [if_pos empty, if_pos (Or.inl _)]
    rwa [String.isEmpty_iff, ← String.toList_eq_nil_iff] at empty
  rw [if_neg empty]
  rw [String.isEmpty_iff, ← String.toList_eq_nil_iff] at empty
  by_cases space : ' ' ∈ name.toList
  · rw [if_pos (List.contains_iff_mem.mpr space), if_pos (Or.inr space)]
  · rw [if_neg (mt List.contains_iff_mem.mp space), if_neg (not_or.mpr ⟨empty, space⟩)]

theorem wcharToLower_of_large {wchar : UInt16} (large : 0x1E9E < wchar.toNat) :
    wcharToLower wchar = wchar := by
  rw [← UInt16.toNat_inj, toNat_wcharToLower, lowerCode_of_large large]

theorem wcharToUpper_of_large {wchar : UInt16} (large : 0x1E9E < wchar.toNat) :
    wcharToUpper wchar = wchar := by
  rw [← UInt16.toNat_inj, toNat_wcharToUpper, upperCode_of_large large]

theorem wcharToLower_ofNat {code : Nat} (small : code ≤ 0xffff) :
    wcharToLower (UInt16.ofNat code) = UInt16.ofNat (lowerCode code) := by
  rw [← UInt16.toNat_inj, toNat_wcharToLower, Utf8.toNat_unit (Nat.lt_succ_of_le small),
    Utf8.toNat_unit (Nat.lt_succ_of_le (lowerCode_le small))]

theorem wcharToUpper_ofNat {code : Nat} (small : code ≤ 0xffff) :
    wcharToUpper (UInt16.ofNat code) = UInt16.ofNat (upperCode code) := by
  rw [← UInt16.toNat_inj, toNat_wcharToUpper, Utf8.toNat_unit (Nat.lt_succ_of_le small),
    Utf8.toNat_unit (Nat.lt_succ_of_le (upperCode_le small))]

/-- A character is one unit, or two units and not a letter of the tables. -/
theorem units_cases (char : Char) :
    char.toNat ≤ 0xffff ∨
      (0x1E9E < char.toNat ∧ ∃ lead trail : UInt16, 0x1E9E < lead.toNat ∧ 0x1E9E < trail.toNat ∧
        Utf8.units char.toNat = [lead, trail]) := by
  have range := Utf8.isCodePointValid_iff.mp (Utf8.isCodePointValid_toNat char)
  by_cases large : 0xffff < char.toNat
  · refine Or.inr ⟨by omega, _, _, ?_, ?_, if_pos large⟩
    · rw [Utf8.toNat_unit (by omega)]
      omega
    · rw [Utf8.toNat_unit (by omega)]
      omega
  · exact Or.inl (Nat.not_lt.mp large)

theorem map_lower_units (char : Char) :
    (Utf8.units char.toNat).map wcharCase.lower = Utf8.units (charCase.lower char).toNat := by
  have lowered : (charCase.lower char).toNat = lowerCode char.toNat := toNat_lowerChar char
  obtain small | ⟨large, lead, trail, leadLarge, trailLarge, two⟩ := units_cases char
  · rw [lowered, Utf8.units_of_small small, Utf8.units_of_small (lowerCode_le small),
      ← wcharToLower_ofNat small]
    rfl
  · rw [lowered, lowerCode_of_large large, two, List.map_cons, List.map_cons, List.map_nil]
    dsimp only [wcharCase]
    rw [wcharToLower_of_large leadLarge, wcharToLower_of_large trailLarge]

theorem capitalize_units (char : Char) (rest : List UInt16) :
    wcharCase.capitalize (Utf8.units char.toNat ++ rest) =
      Utf8.units (charCase.upper char).toNat ++ rest := by
  have raised : (charCase.upper char).toNat = upperCode char.toNat := toNat_upperChar char
  obtain small | ⟨large, lead, trail, leadLarge, trailLarge, two⟩ := units_cases char
  · rw [raised, Utf8.units_of_small small, Utf8.units_of_small (upperCode_le small),
      ← wcharToUpper_ofNat small]
    rfl
  · rw [raised, upperCode_of_large large, two, List.cons_append, LetterCase.capitalize]
    dsimp only [wcharCase]
    rw [wcharToUpper_of_large leadLarge, List.cons_append]

theorem canonical_unitsOf (chars : List Char) :
    wcharCase.canonical (Utf8.unitsOf chars) = Utf8.unitsOf (charCase.canonical chars) := by
  have lowered : (Utf8.unitsOf chars).map wcharCase.lower =
      Utf8.unitsOf (chars.map charCase.lower) := by
    rw [Utf8.unitsOf, Utf8.unitsOf, List.map_flatMap, List.flatMap_map]
    exact List.flatMap_congr fun char _ => map_lower_units char
  rw [LetterCase.canonical, lowered, LetterCase.canonical]
  cases chars.map charCase.lower with
  | nil => rfl
  | cons first rest => exact capitalize_units first _

/-- On the octets of a text, the name is accepted if the text is, and becomes the
octets of its normal form. -/
theorem normalizePlayerName_octetsOf (name : String) :
    normalizePlayerName (Utf8.octetsOf name) =
      ((GuildPlayers.normalizePlayerName name).1,
        Utf8.octetsOf (GuildPlayers.normalizePlayerName name).2) := by
  have decoded := Utf8.utf8to16_octetsOf name
  have empty := Utf8.octetsOf_eq_nil_iff name
  have space := Utf8.space_mem_octetsOf_iff name
  rw [normalizePlayerName_text]
  split_ifs with refused
  · unfold normalizePlayerName
    obtain nothing | inside := refused
    · rw [if_pos (List.isEmpty_iff.mpr (empty.mpr nothing))]
    · rw [if_pos (List.contains_iff_mem.mpr (space.mpr inside)), ite_self]
  · rw [not_or] at refused
    rw [normalizePlayerName_eq_true_iff]
    refine ⟨mt empty.mp refused.1, mt space.mp refused.2, _, decoded, ?_⟩
    rw [canonical_unitsOf, ← Utf8.utf8to16_iff_utf16to8, Utf8.utf8to16_octetsOf,
      String.toList_ofList]

/-- `NormalizePlayerName` yields one spelling for all names that differ in the
letter cases only, and accepts every text that is not empty and has no space. -/
theorem normalizePlayerName_canonical :
    (∀ name : List UInt8, (normalizePlayerName name).1 = true →
      normalizePlayerName (normalizePlayerName name).2 = (true, (normalizePlayerName name).2)) ∧
    (∀ name other : List UInt8,
      (normalizePlayerName name).1 = true → (normalizePlayerName other).1 = true →
        ((normalizePlayerName name).2 = (normalizePlayerName other).2 ↔
          (utf8to16 name).map (List.map wcharToLower) =
            (utf8to16 other).map (List.map wcharToLower))) ∧
    ∀ name : List UInt8, name ≠ [] → (∃ text : String, name = Utf8.octetsOf text) →
      0x20 ∉ name → (normalizePlayerName name).1 = true := by
  refine ⟨?_, ?_, ?_⟩
  · intro name accepted
    exact normalizePlayerName_idem (Prod.ext accepted rfl)
  · intro name other accepted otherAccepted
    exact normalizePlayerName_eq_iff (Prod.ext accepted rfl) (Prod.ext otherAccepted rfl)
  · rintro name some ⟨text, rfl⟩ noSpace
    rw [Ne, Utf8.octetsOf_eq_nil_iff] at some
    rw [Utf8.space_mem_octetsOf_iff] at noSpace
    rw [normalizePlayerName_octetsOf, normalizePlayerName_text,
      if_neg (not_or.mpr ⟨some, noSpace⟩)]

theorem normalizePlayerName_canonical_letters :
    normalizePlayerName (normalizePlayerName [0x61, 0xD0, 0x91]).2 =
        (true, (normalizePlayerName [0x61, 0xD0, 0x91]).2) ∧
      (normalizePlayerName [0x61, 0xD0, 0x91]).2 = (normalizePlayerName [0x41, 0xD0, 0xB1]).2 ∧
      (normalizePlayerName [0xC3, 0x9F]).1 = true := by
  obtain ⟨stays, same, accepted⟩ := normalizePlayerName_canonical
  refine ⟨stays _ (by decide), (same _ _ (by decide) (by decide)).mpr (by decide), ?_⟩
  exact accepted [0xC3, 0x9F] (by decide) ⟨"ß", by decide⟩ (by decide)

end PlayerNames

end WarheadBot
