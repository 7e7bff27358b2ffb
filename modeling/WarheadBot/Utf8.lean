import WarheadBot.PrefixCode

/-!
# Conversions of the UTF-8 library

`utf8to16` and `utf16to8` of the library under `deps`, on octets and 16-bit
units.  Both throw on text that is not valid; the callers catch every exception,
so the result is an `Option`.  Code points are the symbols of two prefix codes,
and the loops are conversions between them.
-/

namespace WarheadBot

namespace Utf8

def isLeadSurrogate (cp : Nat) : Bool :=
  0xd800 ≤ cp && cp ≤ 0xdbff

def isTrailSurrogate (cp : Nat) : Bool :=
  0xdc00 ≤ cp && cp ≤ 0xdfff

def isSurrogate (cp : Nat) : Bool :=
  0xd800 ≤ cp && cp ≤ 0xdfff

def isCodePointValid (cp : Nat) : Bool :=
  cp ≤ 0x10ffff && !isSurrogate cp

def isTrail (octet : UInt8) : Bool :=
  octet.toNat / 64 = 0x2

def sequenceLength (lead : UInt8) : Nat :=
  if lead.toNat < 0x80 then 1
  else if lead.toNat / 32 = 0x6 then 2
  else if lead.toNat / 16 = 0xe then 3
  else if lead.toNat / 8 = 0x1e then 4
  else 0

def isOverlongSequence (cp length : Nat) : Bool :=
  if cp < 0x80 then length ≠ 1
  else if cp < 0x800 then length ≠ 2
  else if cp < 0x10000 then length ≠ 3
  else false

/-- The functions `get_sequence_1` to `get_sequence_4`: the code point of a
sequence of this length, and the octets after it. -/
def getSequence (lead : UInt8) : Nat → List UInt8 → Option (Nat × List UInt8)
  | 1, octets => some (lead.toNat, octets)
  | 2, second :: octets =>
      if isTrail second then
        some (lead.toNat * 64 % 0x800 + second.toNat % 64, octets)
      else none
  | 3, second :: third :: octets =>
      if isTrail second && isTrail third then
        some (lead.toNat * 4096 % 0x10000 + second.toNat * 64 % 4096 + third.toNat % 64, octets)
      else none
  | 4, second :: third :: fourth :: octets =>
      if isTrail second && isTrail third && isTrail fourth then
        some (lead.toNat * 262144 % 0x200000 + second.toNat * 4096 % 262144 +
          third.toNat * 64 % 4096 + fourth.toNat % 64, octets)
      else none
  | _, _ => none

/-- `next`, with the checks of `validate_next`. -/
def next : List UInt8 → Option (Nat × List UInt8)
  | [] => none
  | lead :: octets =>
      (getSequence lead (sequenceLength lead) octets).bind fun (cp, rest) =>
        if isCodePointValid cp && !isOverlongSequence cp (sequenceLength lead) then
          some (cp, rest)
        else none

/-- The octets that `append` writes. -/
def encode (cp : Nat) : List UInt8 :=
  if cp < 0x80 then [UInt8.ofNat cp]
  else if cp < 0x800 then [UInt8.ofNat (cp / 64 + 0xc0), UInt8.ofNat (cp % 64 + 0x80)]
  else if cp < 0x10000 then
    [UInt8.ofNat (cp / 4096 + 0xe0), UInt8.ofNat (cp / 64 % 64 + 0x80),
      UInt8.ofNat (cp % 64 + 0x80)]
  else
    [UInt8.ofNat (cp / 262144 + 0xf0), UInt8.ofNat (cp / 4096 % 64 + 0x80),
      UInt8.ofNat (cp / 64 % 64 + 0x80), UInt8.ofNat (cp % 64 + 0x80)]

def append (cp : Nat) : Option (List UInt8) :=
  if isCodePointValid cp then some (encode cp) else none

/-- The units that `utf8to16` writes for a code point. -/
def units (cp : Nat) : List UInt16 :=
  if 0xffff < cp then [UInt16.ofNat (cp / 1024 + 0xd7c0), UInt16.ofNat (cp % 1024 + 0xdc00)]
  else [UInt16.ofNat cp]

/-- The code point that `utf16to8` takes off the units, in 32 bits. -/
def nextUnits : List UInt16 → Option (Nat × List UInt16)
  | [] => none
  | unit :: rest =>
      if isLeadSurrogate unit.toNat then
        match rest with
        | [] => none
        | trail :: rest =>
            if isTrailSurrogate trail.toNat then
              some ((unit.toNat * 1024 + trail.toNat + 0xfca02400) % 0x100000000, rest)
            else none
      else if isTrailSurrogate unit.toNat then none
      else some (unit.toNat, rest)

def utf8to16 (octets : List UInt8) : Option (List UInt16) :=
  PrefixCode.convert next (fun cp => some (units cp)) octets.length octets

def utf16to8 (wide : List UInt16) : Option (List UInt8) :=
  PrefixCode.convert nextUnits append wide.length wide

theorem isCodePointValid_iff {cp : Nat} :
    isCodePointValid cp ↔ cp < 0xd800 ∨ 0xdfff < cp ∧ cp ≤ 0x10ffff := by
  unfold isCodePointValid isSurrogate
  simp only [Bool.and_eq_true, Bool.not_eq_true', Bool.and_eq_false_iff, decide_eq_true_eq,
    decide_eq_false_iff_not]
  omega

theorem isTrail_iff {octet : UInt8} : isTrail octet ↔ octet.toNat / 64 = 2 := by
  unfold isTrail
  rw [decide_eq_true_eq]

theorem isOverlongSequence_eq_false_iff {cp length : Nat} :
    isOverlongSequence cp length = false ↔
      (cp < 0x80 → length = 1) ∧ (0x80 ≤ cp ∧ cp < 0x800 → length = 2) ∧
        (0x800 ≤ cp ∧ cp < 0x10000 → length = 3) := by
  unfold isOverlongSequence
  split_ifs with one two three
  · rw [decide_eq_false_iff_not]
    omega
  · rw [decide_eq_false_iff_not]
    omega
  · rw [decide_eq_false_iff_not]
    omega
  · simp only [true_iff]
    omega

theorem octet_eq (octet : UInt8) {value : Nat} (same : value = octet.toNat) :
    UInt8.ofNat value = octet := by
  rw [same, UInt8.ofNat_toNat]

theorem toNat_octet {value : Nat} (bound : value < 256) : (UInt8.ofNat value).toNat = value :=
  UInt8.toNat_ofNat_of_lt' bound

/-- A sequence that is read and is not too long is the code of its code point. -/
theorem encode_of_getSequence {lead : UInt8} {octets rest : List UInt8} {cp : Nat}
    (read : getSequence lead (sequenceLength lead) octets = some (cp, rest))
    (short : isOverlongSequence cp (sequenceLength lead) = false) :
    lead :: octets = encode cp ++ rest := by
  have bound := lead.toNat_lt
  rw [isOverlongSequence_eq_false_iff] at short
  unfold sequenceLength at read short
  split_ifs at read short with one two three four
  · cases read
    rw [encode, if_pos one, UInt8.ofNat_toNat]
    rfl
  · match octets with
    | second :: octets =>
        simp only [getSequence, Option.ite_none_right_eq_some, Option.some.injEq,
          Prod.mk.injEq, isTrail_iff] at read
        obtain ⟨trail, rfl, rfl⟩ := read
        rw [encode, if_neg (by omega), if_pos (by omega), octet_eq lead (by omega),
          octet_eq second (by omega)]
        rfl
  · match octets with
    | second :: third :: octets =>
        simp only [getSequence, Option.ite_none_right_eq_some, Option.some.injEq,
          Prod.mk.injEq, Bool.and_eq_true, isTrail_iff] at read
        obtain ⟨trail, rfl, rfl⟩ := read
        rw [encode, if_neg (by omega), if_neg (by omega), if_pos (by omega),
          octet_eq lead (by omega), octet_eq second (by omega), octet_eq third (by omega)]
        rfl
  · match octets with
    | second :: third :: fourth :: octets =>
        simp only [getSequence, Option.ite_none_right_eq_some, Option.some.injEq,
          Prod.mk.injEq, Bool.and_eq_true, isTrail_iff] at read
        obtain ⟨trail, rfl, rfl⟩ := read
        rw [encode, if_neg (by omega), if_neg (by omega), if_neg (by omega),
          octet_eq lead (by omega), octet_eq second (by omega), octet_eq third (by omega),
          octet_eq fourth (by omega)]
        rfl
  · cases read

theorem next_of_getSequence {lead : UInt8} {octets rest : List UInt8} {cp length : Nat}
    (announced : sequenceLength lead = length)
    (read : getSequence lead length octets = some (cp, rest)) (valid : isCodePointValid cp)
    (short : isOverlongSequence cp length = false) :
    next (lead :: octets) = some (cp, rest) := by
  simp only [next, announced, read, Option.bind_some, valid, short, Bool.not_false,
    Bool.and_true, if_true]

theorem next_encode {cp : Nat} (valid : isCodePointValid cp) (rest : List UInt8) :
    next (encode cp ++ rest) = some (cp, rest) := by
  have range := isCodePointValid_iff.mp valid
  unfold encode
  split_ifs with one two three
  · have lead := @toNat_octet cp (by omega)
    have announced : sequenceLength (UInt8.ofNat cp) = 1 := by
      rw [sequenceLength, lead, if_pos one]
    have read : getSequence (UInt8.ofNat cp) 1 rest = some (cp, rest) := by
      rw [getSequence, lead]
    have short := @isOverlongSequence_eq_false_iff cp 1
    exact next_of_getSequence announced read valid (short.mpr (by omega))
  · have lead := @toNat_octet (cp / 64 + 0xc0) (by omega)
    have second := @toNat_octet (cp % 64 + 0x80) (by omega)
    have announced : sequenceLength (UInt8.ofNat (cp / 64 + 0xc0)) = 2 := by
      rw [sequenceLength, lead, if_neg (by omega), if_pos (by omega)]
    have read : getSequence (UInt8.ofNat (cp / 64 + 0xc0)) 2
        (UInt8.ofNat (cp % 64 + 0x80) :: rest) = some (cp, rest) := by
      simp only [getSequence, Option.ite_none_right_eq_some, Option.some.injEq, Prod.mk.injEq,
        isTrail_iff, lead, second, and_true]
      omega
    have short := @isOverlongSequence_eq_false_iff cp 2
    exact next_of_getSequence announced read valid (short.mpr (by omega))
  · have lead := @toNat_octet (cp / 4096 + 0xe0) (by omega)
    have second := @toNat_octet (cp / 64 % 64 + 0x80) (by omega)
    have third := @toNat_octet (cp % 64 + 0x80) (by omega)
    have announced : sequenceLength (UInt8.ofNat (cp / 4096 + 0xe0)) = 3 := by
      rw [sequenceLength, lead, if_neg (by omega), if_neg (by omega), if_pos (by omega)]
    have read : getSequence (UInt8.ofNat (cp / 4096 + 0xe0)) 3
        (UInt8.ofNat (cp / 64 % 64 + 0x80) :: UInt8.ofNat (cp % 64 + 0x80) :: rest) =
          some (cp, rest) := by
      simp only [getSequence, Option.ite_none_right_eq_some, Option.some.injEq, Prod.mk.injEq,
        Bool.and_eq_true, isTrail_iff, lead, second, third, and_true]
      omega
    have short := @isOverlongSequence_eq_false_iff cp 3
    exact next_of_getSequence announced read valid (short.mpr (by omega))
  · have lead := @toNat_octet (cp / 262144 + 0xf0) (by omega)
    have second := @toNat_octet (cp / 4096 % 64 + 0x80) (by omega)
    have third := @toNat_octet (cp / 64 % 64 + 0x80) (by omega)
    have fourth := @toNat_octet (cp % 64 + 0x80) (by omega)
    have announced : sequenceLength (UInt8.ofNat (cp / 262144 + 0xf0)) = 4 := by
      rw [sequenceLength, lead, if_neg (by omega), if_neg (by omega), if_neg (by omega),
        if_pos (by omega)]
    have read : getSequence (UInt8.ofNat (cp / 262144 + 0xf0)) 4
        (UInt8.ofNat (cp / 4096 % 64 + 0x80) :: UInt8.ofNat (cp / 64 % 64 + 0x80) ::
          UInt8.ofNat (cp % 64 + 0x80) :: rest) = some (cp, rest) := by
      simp only [getSequence, Option.ite_none_right_eq_some, Option.some.injEq, Prod.mk.injEq,
        Bool.and_eq_true, isTrail_iff, lead, second, third, fourth, and_true]
      omega
    have short := @isOverlongSequence_eq_false_iff cp 4
    exact next_of_getSequence announced read valid (short.mpr (by omega))

theorem next_eq_some_iff {octets rest : List UInt8} {cp : Nat} :
    next octets = some (cp, rest) ↔ isCodePointValid cp ∧ octets = encode cp ++ rest := by
  constructor
  · intro read
    cases octets with
    | nil => cases read
    | cons lead octets =>
        obtain ⟨⟨value, remaining⟩, sequence, checked⟩ := Option.bind_eq_some_iff.mp read
        dsimp only at checked
        rw [Option.ite_none_right_eq_some, Bool.and_eq_true, Bool.not_eq_true'] at checked
        obtain ⟨⟨valid, short⟩, same⟩ := checked
        cases same
        exact ⟨valid, encode_of_getSequence sequence short⟩
  · rintro ⟨valid, rfl⟩
    exact next_encode valid rest

theorem unit_eq (unit : UInt16) {value : Nat} (same : value = unit.toNat) :
    UInt16.ofNat value = unit := by
  rw [same, UInt16.ofNat_toNat]

theorem toNat_unit {value : Nat} (bound : value < 65536) : (UInt16.ofNat value).toNat = value :=
  UInt16.toNat_ofNat_of_lt' bound

theorem isLeadSurrogate_iff {cp : Nat} : isLeadSurrogate cp ↔ 0xd800 ≤ cp ∧ cp ≤ 0xdbff := by
  rw [isLeadSurrogate, Bool.and_eq_true, decide_eq_true_eq, decide_eq_true_eq]

theorem isTrailSurrogate_iff {cp : Nat} : isTrailSurrogate cp ↔ 0xdc00 ≤ cp ∧ cp ≤ 0xdfff := by
  rw [isTrailSurrogate, Bool.and_eq_true, decide_eq_true_eq, decide_eq_true_eq]

theorem units_of_small {cp : Nat} (small : cp ≤ 0xffff) : units cp = [UInt16.ofNat cp] :=
  if_neg (Nat.not_lt.mpr small)

theorem nextUnits_units {cp : Nat} (valid : isCodePointValid cp) (rest : List UInt16) :
    nextUnits (units cp ++ rest) = some (cp, rest) := by
  have range := isCodePointValid_iff.mp valid
  unfold units
  split_ifs with large
  · have lead := @toNat_unit (cp / 1024 + 0xd7c0) (by omega)
    have trail := @toNat_unit (cp % 1024 + 0xdc00) (by omega)
    simp only [List.cons_append, List.nil_append, nextUnits, isLeadSurrogate_iff,
      isTrailSurrogate_iff, lead, trail]
    rw [if_pos (by omega), if_pos (by omega), Option.some.injEq, Prod.mk.injEq]
    refine ⟨?_, rfl⟩
    omega
  · have unit := @toNat_unit cp (by omega)
    simp only [List.cons_append, List.nil_append, nextUnits, isLeadSurrogate_iff,
      isTrailSurrogate_iff, unit]
    rw [if_neg (by omega), if_neg (by omega)]

theorem nextUnits_eq_some_iff {wide rest : List UInt16} {cp : Nat} :
    nextUnits wide = some (cp, rest) ↔ isCodePointValid cp ∧ wide = units cp ++ rest := by
  constructor
  · intro read
    cases wide with
    | nil => cases read
    | cons unit wide =>
        have bound := unit.toNat_lt
        simp only [nextUnits] at read
        split_ifs at read with lead trail
        · cases wide with
          | nil => cases read
          | cons second wide =>
              simp only [Option.ite_none_right_eq_some, Option.some.injEq, Prod.mk.injEq,
                isTrailSurrogate_iff] at read
              rw [isLeadSurrogate_iff] at lead
              obtain ⟨trail, rfl, rfl⟩ := read
              refine ⟨isCodePointValid_iff.mpr (by omega), ?_⟩
              rw [units, if_pos (by omega), unit_eq unit (by omega), unit_eq second (by omega)]
              rfl
        · cases read
          rw [isLeadSurrogate_iff] at lead
          rw [isTrailSurrogate_iff] at trail
          refine ⟨isCodePointValid_iff.mpr (by omega), ?_⟩
          rw [units, if_neg (by omega), UInt16.ofNat_toNat]
          rfl
  · rintro ⟨valid, rfl⟩
    exact nextUnits_units valid rest

theorem encode_ne_nil (cp : Nat) : encode cp ≠ [] := by
  unfold encode
  split_ifs <;> exact List.cons_ne_nil _ _

theorem units_ne_nil (cp : Nat) : units cp ≠ [] := by
  unfold units
  split_ifs <;> exact List.cons_ne_nil _ _

def octetCode : PrefixCode Nat UInt8 where
  valid cp := isCodePointValid cp
  encode := encode
  next := next
  next_eq_some_iff := next_eq_some_iff
  encode_ne_nil := fun _ => encode_ne_nil _

def unitCode : PrefixCode Nat UInt16 where
  valid cp := isCodePointValid cp
  encode := units
  next := nextUnits
  next_eq_some_iff := nextUnits_eq_some_iff
  encode_ne_nil := fun _ => units_ne_nil _

def AllValid (text : List Nat) : Prop :=
  ∀ cp ∈ text, isCodePointValid cp

theorem utf8to16_eq_some_iff {octets : List UInt8} {wide : List UInt16} :
    utf8to16 octets = some wide ↔
      ∃ text : List Nat, AllValid text ∧ octets = text.flatMap encode ∧
        wide = text.flatMap units :=
  octetCode.convert_eq_some_iff (fun _ _ => rfl) (Nat.le_refl _)

theorem utf16to8_eq_some_iff {wide : List UInt16} {octets : List UInt8} :
    utf16to8 wide = some octets ↔
      ∃ text : List Nat, AllValid text ∧ wide = text.flatMap units ∧
        octets = text.flatMap encode :=
  unitCode.convert_eq_some_iff (fun _ valid => if_pos valid) (Nat.le_refl _)

/-- Each conversion undoes the other, and each fails where the other cannot
lead. -/
theorem utf8to16_iff_utf16to8 {octets : List UInt8} {wide : List UInt16} :
    utf8to16 octets = some wide ↔ utf16to8 wide = some octets := by
  rw [utf8to16_eq_some_iff, utf16to8_eq_some_iff]
  constructor
  · rintro ⟨text, valid, encoded, written⟩
    exact ⟨text, valid, written, encoded⟩
  · rintro ⟨text, valid, written, encoded⟩
    exact ⟨text, valid, encoded, written⟩

theorem octets_eq_nil_iff {octets : List UInt8} {wide : List UInt16}
    (decoded : utf8to16 octets = some wide) : octets = [] ↔ wide = [] := by
  obtain ⟨text, -, rfl, rfl⟩ := utf8to16_eq_some_iff.mp decoded
  cases text with
  | nil => exact iff_of_true rfl rfl
  | cons cp text =>
      simp only [List.flatMap_cons, List.append_eq_nil_iff, encode_ne_nil, units_ne_nil,
        false_and]

theorem space_mem_encode_iff {cp : Nat} (valid : isCodePointValid cp) :
    0x20 ∈ encode cp ↔ cp = 0x20 := by
  have range := isCodePointValid_iff.mp valid
  unfold encode
  split_ifs
  all_goals
    simp only [List.mem_cons, List.not_mem_nil, or_false, ← UInt8.toNat_inj, UInt8.toNat_ofNat',
      UInt8.reduceToNat]
    omega

theorem space_mem_units_iff {cp : Nat} (valid : isCodePointValid cp) :
    0x20 ∈ units cp ↔ cp = 0x20 := by
  have range := isCodePointValid_iff.mp valid
  unfold units
  split_ifs
  all_goals
    simp only [List.mem_cons, List.not_mem_nil, or_false, ← UInt16.toNat_inj,
      UInt16.toNat_ofNat', UInt16.reduceToNat]
    omega

theorem space_mem_octets_iff {octets : List UInt8} {wide : List UInt16}
    (decoded : utf8to16 octets = some wide) : 0x20 ∈ octets ↔ 0x20 ∈ wide := by
  obtain ⟨text, valid, rfl, rfl⟩ := utf8to16_eq_some_iff.mp decoded
  simp only [List.mem_flatMap]
  apply exists_congr
  intro cp
  apply and_congr_right
  intro inside
  rw [space_mem_encode_iff (valid cp inside), space_mem_units_iff (valid cp inside)]

/-- The octets of a text; text is valid if it has this form. -/
def octetsOf (text : String) : List UInt8 :=
  text.toList.flatMap String.utf8EncodeChar

def unitsOf (chars : List Char) : List UInt16 :=
  chars.flatMap fun char => units char.toNat

theorem isCodePointValid_toNat (char : Char) : isCodePointValid char.toNat := by
  rw [isCodePointValid_iff]
  obtain small | large := char.valid
  · exact Or.inl small
  · exact Or.inr ⟨large.1, Nat.le_of_lt_succ large.2⟩

theorem encode_toNat (char : Char) : encode char.toNat = String.utf8EncodeChar char := by
  have range := isCodePointValid_iff.mp (isCodePointValid_toNat char)
  unfold encode String.utf8EncodeChar
  simp only [Char.toNat_val]
  by_cases one : char.toNat < 0x80
  · rw [if_pos one, if_pos (by omega : char.toNat ≤ 0x7f)]
  rw [if_neg one, if_neg (by omega : ¬char.toNat ≤ 0x7f)]
  by_cases two : char.toNat < 0x800
  · rw [if_pos two, if_pos (by omega : char.toNat ≤ 0x7ff),
      Nat.mod_eq_of_lt (by omega : char.toNat / 64 < 0x20)]
  rw [if_neg two, if_neg (by omega : ¬char.toNat ≤ 0x7ff)]
  by_cases three : char.toNat < 0x10000
  · rw [if_pos three, if_pos (by omega : char.toNat ≤ 0xffff),
      Nat.mod_eq_of_lt (by omega : char.toNat / 4096 < 0x10)]
  · rw [if_neg three, if_neg (by omega : ¬char.toNat ≤ 0xffff),
      Nat.mod_eq_of_lt (by omega : char.toNat / 262144 < 0x08)]

theorem utf8to16_octetsOf (text : String) :
    utf8to16 (octetsOf text) = some (unitsOf text.toList) := by
  rw [utf8to16_eq_some_iff]
  refine ⟨text.toList.map Char.toNat, ?_, ?_, ?_⟩
  · intro cp inside
    obtain ⟨char, -, rfl⟩ := List.mem_map.mp inside
    exact isCodePointValid_toNat char
  · rw [List.flatMap_map]
    exact List.flatMap_congr fun char _ => (encode_toNat char).symm
  · rw [List.flatMap_map]
    rfl

theorem octetsOf_eq_nil_iff (text : String) : octetsOf text = [] ↔ text.toList = [] := by
  rw [octets_eq_nil_iff (utf8to16_octetsOf text)]
  cases text.toList with
  | nil => exact iff_of_true rfl rfl
  | cons first rest =>
      simp only [unitsOf, List.flatMap_cons, List.append_eq_nil_iff, units_ne_nil, false_and,
        List.cons_ne_nil]

theorem space_mem_octetsOf_iff (text : String) : 0x20 ∈ octetsOf text ↔ ' ' ∈ text.toList := by
  rw [space_mem_octets_iff (utf8to16_octetsOf text), unitsOf, List.mem_flatMap]
  constructor
  · rintro ⟨char, inside, space⟩
    rw [space_mem_units_iff (isCodePointValid_toNat char)] at space
    have same : char = ' ' := Char.toNat_inj.mp space
    rwa [← same]
  · intro inside
    exact ⟨' ', inside, (space_mem_units_iff (isCodePointValid_toNat ' ')).mpr rfl⟩

end Utf8

end WarheadBot
