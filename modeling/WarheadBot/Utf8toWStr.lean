import WarheadBot.CheckedOutput
import WarheadBot.Utf8

/-!
# Conversion into a buffer of wide characters

`Utf8toWStr` with a buffer of `wsize` wide characters, from `Util.cpp`.  Only the
conversion is checked; the terminator and the error message are written after it.
-/

namespace WarheadBot

namespace Utilities

open ByteBuffer Containers CheckedBufferOutputIterator

theorem length_lt_of_next {octets rest : List UInt8} {cp : Nat}
    (read : Utf8.next octets = some (cp, rest)) : rest.length < octets.length := by
  obtain ⟨-, rfl⟩ := Utf8.next_eq_some_iff.mp read
  have positive := List.length_pos_iff.mpr (Utf8.encode_ne_nil cp)
  rw [List.length_append]
  omega

def wideUnits (wide : List UInt16) : List UInt32 :=
  wide.map UInt16.toUInt32

@[simp]
theorem length_wideUnits (wide : List UInt16) : (wideUnits wide).length = wide.length :=
  List.length_map _

theorem wideUnits_append (first second : List UInt16) :
    wideUnits (first ++ second) = wideUnits first ++ wideUnits second :=
  List.map_append

/-- `utf8to16` with the checked iterator as its result. -/
def utf8to16Checked (octets : List UInt8) (out : CheckedBufferOutputIterator)
    (wstr : Buffer UInt32) : Option (Option CheckedBufferOutputIterator × Buffer UInt32) :=
  if octets = [] then some (some out, wstr)
  else
    match _read : Utf8.next octets with
    | none => some (none, wstr)
    | some (cp, rest) =>
        (putAll (wideUnits (Utf8.units cp)) out wstr).bind
          (andThen fun out wstr => utf8to16Checked rest out wstr)
termination_by octets.length
decreasing_by exact length_lt_of_next _read

def errorMessage : List UInt32 :=
  "An error occurred converting string from UTF-8 to WStr".toList.map fun char =>
    UInt32.ofNat char.toNat

/-- The length of the wide string at the beginning of the buffer. -/
def length (wstr : Buffer UInt32) : Option Nat :=
  (List.range wstr.size).find? fun position => wstr.content position = 0

structure Conversion where
  success : Bool
  wsize : Nat
  wstr : Buffer UInt32

/-- What is done about an exception. -/
def replaceConverted (wstr : Buffer UInt32) (wsize : Nat) : Option Conversion :=
  if errorMessage.length ≤ wsize then
    (wstr.write 0 (errorMessage ++ [0])).bind fun wstr =>
      (length wstr).map fun wsize => { success := false, wsize, wstr }
  else if 0 < wsize then
    (wstr.write 0 [0]).map fun wstr => { success := false, wsize := 0, wstr }
  else some { success := false, wsize := 0, wstr }

/-- `none` if something is written outside of the buffer. -/
def utf8toWStr (utf8str : List UInt8) (wstr : Buffer UInt32) (wsize : Nat) : Option Conversion :=
  (utf8to16Checked utf8str (start wsize) wstr).bind fun
    | (some out, wstr) =>
        (wstr.write (wsize - out.remaining) [0]).map fun wstr =>
          { success := true, wsize := wsize - out.remaining, wstr }
    | (none, wstr) => replaceConverted wstr wsize

section Checked

variable {octets : List UInt8} {out : CheckedBufferOutputIterator} {wstr : Buffer UInt32}

theorem utf8to16Checked_nil : utf8to16Checked [] out wstr = some (some out, wstr) := by
  rw [utf8to16Checked, if_pos rfl]

theorem utf8to16Checked_of_next_eq_none (notEmpty : octets ≠ [])
    (invalid : Utf8.next octets = none) :
    utf8to16Checked octets out wstr = some (none, wstr) := by
  rw [utf8to16Checked, if_neg notEmpty]
  split
  · rfl
  · next read => cases invalid.symm.trans read

theorem utf8to16Checked_of_next {cp : Nat} {rest : List UInt8}
    (read : Utf8.next octets = some (cp, rest)) :
    utf8to16Checked octets out wstr =
      (putAll (wideUnits (Utf8.units cp)) out wstr).bind (andThen (utf8to16Checked rest)) := by
  have notEmpty : octets ≠ [] :=
    List.ne_nil_of_length_pos (Nat.zero_lt_of_lt (length_lt_of_next read))
  rw [utf8to16Checked, if_neg notEmpty]
  split
  · next invalid => cases invalid.symm.trans read
  · next again =>
      cases again.symm.trans read
      rfl

/-- The valid text at the front is put out before the rest is read. -/
theorem utf8to16Checked_append {text : List Nat} (valid : Utf8.AllValid text)
    (rest : List UInt8) :
    utf8to16Checked (text.flatMap Utf8.encode ++ rest) out wstr =
      (putAll (wideUnits (text.flatMap Utf8.units)) out wstr).bind
        (andThen (utf8to16Checked rest)) := by
  induction text generalizing out wstr with
  | nil => rfl
  | cons cp text ih =>
      obtain ⟨validFirst, validOthers⟩ := List.forall_mem_cons.mp valid
      have read := Utf8.next_encode validFirst (text.flatMap Utf8.encode ++ rest)
      rw [List.flatMap_cons, List.append_assoc, utf8to16Checked_of_next read, List.flatMap_cons,
        wideUnits_append, putAll_append, bind_andThen_bind]
      congr 2
      funext out wstr
      exact ih validOthers

/-- Octets are valid text up to a place where no code point can be read. -/
theorem exists_validFront (octets : List UInt8) :
    ∃ (text : List Nat) (rest : List UInt8), Utf8.AllValid text ∧
      octets = text.flatMap Utf8.encode ++ rest ∧ (rest ≠ [] → Utf8.next rest = none) := by
  induction bound : octets.length using Nat.strongRecOn generalizing octets with
  | ind bound ih =>
      cases read : Utf8.next octets with
      | none => exact ⟨[], octets, by simp [Utf8.AllValid], rfl, fun _ => read⟩
      | some symbol =>
          obtain ⟨cp, others⟩ := symbol
          have shorter := length_lt_of_next read
          obtain ⟨validFirst, rfl⟩ := Utf8.next_eq_some_iff.mp read
          obtain ⟨text, rest, valid, rfl, stuck⟩ := ih others.length (by omega) others rfl
          refine ⟨cp :: text, rest, List.forall_mem_cons.mpr ⟨validFirst, valid⟩, ?_, stuck⟩
          rw [List.flatMap_cons, List.append_assoc]

/-- Valid text that there is room for is written as a whole. -/
theorem utf8to16Checked_of_le (within : out.bufEnd ≤ wstr.size) {wide : List UInt16}
    (decoded : Utf8.utf8to16 octets = some wide) (room : out.buf + wide.length ≤ out.bufEnd) :
    ∃ written, wstr.write out.buf (wideUnits wide) = some written ∧
      utf8to16Checked octets out wstr =
        some (some ⟨out.buf + wide.length, out.bufEnd, room⟩, written) := by
  obtain ⟨text, valid, rfl, rfl⟩ := Utf8.utf8to16_eq_some_iff.mp decoded
  rw [← length_wideUnits] at room
  obtain ⟨written, wrote, moved⟩ := putAll_of_le within room
  refine ⟨written, wrote, ?_⟩
  have converted := @utf8to16Checked_append out wstr text valid []
  rw [List.append_nil, moved, Option.bind_some, andThen, utf8to16Checked_nil] at converted
  rw [converted]
  simp only [length_wideUnits]

/-- Text that is not valid, or too long for the buffer, ends with an exception. -/
theorem utf8to16Checked_of_thrown (within : out.bufEnd ≤ wstr.size)
    (bad : ∀ wide, Utf8.utf8to16 octets = some wide → out.bufEnd < out.buf + wide.length) :
    ∃ written, utf8to16Checked octets out wstr = some (none, written) ∧
      written.size = wstr.size := by
  obtain ⟨text, rest, valid, rfl, stuck⟩ := exists_validFront octets
  rw [utf8to16Checked_append valid]
  by_cases ended : rest = []
  · subst ended
    have decoded := Utf8.utf8to16_eq_some_iff.mpr ⟨text, valid, List.append_nil _, rfl⟩
    have full := bad _ decoded
    rw [← length_wideUnits] at full
    obtain ⟨written, thrown, size⟩ := putAll_of_lt within full
    refine ⟨written, ?_, size⟩
    rw [thrown, Option.bind_some, andThen]
  · apply putAll_bind_of_thrown within
    intro out written
    exact utf8to16Checked_of_next_eq_none ended (stuck ended)

end Checked

/-- What the function is for: nothing is written outside of the buffer, and the
converted text is terminated inside of it. -/
def WritesInside (utf8str : List UInt8) (wstr : Buffer UInt32) : Prop :=
  ∃ conversion, utf8toWStr utf8str wstr wstr.size = some conversion ∧
    (conversion.success = true → ∃ wide, Utf8.utf8to16 utf8str = some wide ∧
      conversion.wsize = wide.length ∧
      conversion.wstr.read 0 wide.length = wideUnits wide ∧
      wide.length < wstr.size ∧ conversion.wstr.content wide.length = 0)

section Conversion

variable {utf8str : List UInt8} {wstr : Buffer UInt32}

theorem utf8toWStr_of_le {wide : List UInt16} (decoded : Utf8.utf8to16 utf8str = some wide)
    (room : wide.length ≤ wstr.size) :
    ∃ written, wstr.write 0 (wideUnits wide) = some written ∧
      utf8toWStr utf8str wstr wstr.size =
        (written.write wide.length [0]).map fun wstr =>
          { success := true, wsize := wide.length, wstr } := by
  have fits : (start wstr.size).buf + wide.length ≤ (start wstr.size).bufEnd := by
    rwa [start, Nat.zero_add]
  obtain ⟨written, wrote, converted⟩ := utf8to16Checked_of_le (Nat.le_refl _) decoded fits
  refine ⟨written, wrote, ?_⟩
  have used : wstr.size - (wstr.size - (0 + wide.length)) = wide.length := by omega
  rw [utf8toWStr, converted, Option.bind_some]
  dsimp only [remaining, start]
  rw [used]

theorem utf8toWStr_of_thrown
    (bad : ∀ wide, Utf8.utf8to16 utf8str = some wide → wstr.size < wide.length) :
    ∃ written : Buffer UInt32, written.size = wstr.size ∧
      utf8toWStr utf8str wstr wstr.size = replaceConverted written wstr.size := by
  have full : ∀ wide, Utf8.utf8to16 utf8str = some wide →
      (start wstr.size).bufEnd < (start wstr.size).buf + wide.length := by
    intro wide decoded
    rw [start, Nat.zero_add]
    exact bad wide decoded
  obtain ⟨written, thrown, size⟩ := utf8to16Checked_of_thrown (Nat.le_refl _) full
  refine ⟨written, size, ?_⟩
  rw [utf8toWStr, thrown, Option.bind_some]

/-- What is written with a terminator behind it is found again. -/
theorem length_of_write {written : Buffer UInt32} {message : List UInt32} (text : 0 ∉ message)
    (wrote : wstr.write 0 (message ++ [0]) = some written) :
    length written = some message.length := by
  have fits := le_of_write wrote
  rw [List.length_append, List.length_singleton, Nat.zero_add] at fits
  have content := @content_of_write _ _ _ _ _ wrote
  simp only [Nat.zero_add, List.length_append, List.length_singleton] at content
  simp only [length, size_of_write wrote, List.find?_range_eq_some, decide_eq_true_eq,
    List.mem_range, Bool.not_eq_true', decide_eq_false_iff_not]
  refine ⟨?_, fits, ?_⟩
  · rw [content (Nat.lt_succ_self _), List.getElem_concat_length rfl]
  · intro position before
    rw [content (Nat.lt_succ_of_lt before), List.getElem_append_left before]
    intro zero
    exact text (zero ▸ List.getElem_mem before)

theorem success_of_replaceConverted {wsize : Nat} {conversion : Conversion}
    (replaced : replaceConverted wstr wsize = some conversion) : conversion.success = false := by
  unfold replaceConverted at replaced
  split_ifs at replaced
  · obtain ⟨written, -, measured⟩ := Option.bind_eq_some_iff.mp replaced
    obtain ⟨length, -, rfl⟩ := Option.map_eq_some_iff.mp measured
    rfl
  · obtain ⟨written, -, rfl⟩ := Option.map_eq_some_iff.mp replaced
    rfl
  · cases replaced
    rfl

theorem zero_not_mem_errorMessage : 0 ∉ errorMessage := by
  decide

/-- The message is written with one character more than its length. -/
theorem replaceConverted_eq_none_iff :
    replaceConverted wstr wstr.size = none ↔ wstr.size = errorMessage.length := by
  unfold replaceConverted
  rcases Nat.lt_trichotomy wstr.size errorMessage.length with short | same | long
  · rw [if_neg (by omega), iff_false_right (Nat.ne_of_lt short)]
    by_cases positive : 0 < wstr.size
    · obtain ⟨written, wrote⟩ := @exists_write _ wstr 0 [0] ((Nat.zero_add 1).trans_le positive)
      rw [if_pos positive, wrote]
      exact Option.some_ne_none _
    · rw [if_neg positive]
      exact Option.some_ne_none _
  · rw [if_pos (by omega), iff_true_right same, Buffer.write, if_neg]
    · rfl
    · rw [List.length_append, List.length_singleton]
      omega
  · rw [if_pos (by omega), iff_false_right (Nat.ne_of_gt long)]
    have fits : 0 + (errorMessage ++ [0]).length ≤ wstr.size := by
      rw [List.length_append, List.length_singleton]
      omega
    obtain ⟨written, wrote⟩ := exists_write fits
    rw [wrote, Option.bind_some, length_of_write zero_not_mem_errorMessage wrote]
    exact Option.some_ne_none _

theorem writesInside_iff_of_le {wide : List UInt16}
    (decoded : Utf8.utf8to16 utf8str = some wide) (room : wide.length ≤ wstr.size) :
    WritesInside utf8str wstr ↔ wide.length < wstr.size := by
  obtain ⟨written, wrote, converted⟩ := utf8toWStr_of_le decoded room
  have size := size_of_write wrote
  constructor
  · rintro ⟨conversion, ended, -⟩
    rw [converted] at ended
    obtain ⟨terminated, wroteZero, -⟩ := Option.map_eq_some_iff.mp ended
    have fits := le_of_write wroteZero
    rwa [size, List.length_singleton] at fits
  · intro inside
    have fits : wide.length + [(0 : UInt32)].length ≤ written.size := by
      rwa [size, List.length_singleton]
    obtain ⟨terminated, wroteZero⟩ := exists_write fits
    have zero := @content_of_write _ _ _ _ _ wroteZero 0 (Nat.zero_lt_one)
    have text := read_write wrote
    rw [wroteZero, Option.map_some] at converted
    refine ⟨_, converted, fun _ => ⟨wide, decoded, rfl, ?_, inside, zero⟩⟩
    dsimp only
    rw [length_wideUnits] at text
    rwa [read_write_of_apart wroteZero]
    right
    omega

theorem writesInside_iff_of_thrown
    (bad : ∀ wide, Utf8.utf8to16 utf8str = some wide → wstr.size < wide.length) :
    WritesInside utf8str wstr ↔ wstr.size ≠ errorMessage.length := by
  obtain ⟨written, size, replaced⟩ := utf8toWStr_of_thrown bad
  rw [← size, Ne, ← replaceConverted_eq_none_iff, ← Ne, Option.ne_none_iff_exists', size,
    ← replaced]
  constructor
  · rintro ⟨conversion, ended, -⟩
    exact ⟨conversion, ended⟩
  · rintro ⟨conversion, ended⟩
    refine ⟨conversion, ended, ?_⟩
    rw [success_of_replaceConverted (replaced.symm.trans ended)]
    exact fun success => nomatch success

/-- The terminator is not written inside of a buffer that the text fills exactly,
nor is the message inside of one that has its length. -/
theorem writesInside_iff (utf8str : List UInt8) (wstr : Buffer UInt32) :
    WritesInside utf8str wstr ↔
      (∀ wide, Utf8.utf8to16 utf8str = some wide → wide.length ≠ wstr.size) ∧
        (wstr.size = errorMessage.length →
          ∃ wide, Utf8.utf8to16 utf8str = some wide ∧ wide.length < wstr.size) := by
  by_cases converts : ∃ wide, Utf8.utf8to16 utf8str = some wide ∧ wide.length ≤ wstr.size
  · obtain ⟨wide, decoded, room⟩ := converts
    rw [writesInside_iff_of_le decoded room]
    constructor
    · intro inside
      refine ⟨?_, fun _ => ⟨wide, decoded, inside⟩⟩
      intro other again
      cases again.symm.trans decoded
      exact Nat.ne_of_lt inside
    · rintro ⟨notFilled, -⟩
      exact Nat.lt_of_le_of_ne room (notFilled wide decoded)
  · have bad : ∀ wide, Utf8.utf8to16 utf8str = some wide → wstr.size < wide.length := by
      intro wide decoded
      exact Nat.lt_of_not_le fun room => converts ⟨wide, decoded, room⟩
    rw [writesInside_iff_of_thrown bad]
    constructor
    · intro different
      exact ⟨fun wide decoded => Nat.ne_of_gt (bad wide decoded), fun same => absurd same different⟩
    · rintro ⟨-, short⟩ same
      obtain ⟨wide, decoded, inside⟩ := short same
      exact Nat.lt_asymm inside (bad wide decoded)

/-- The text `a` into a buffer of one wide character. -/
theorem not_writesInside_filled : ¬WritesInside [97] ⟨1, fun _ => 0⟩ := by
  have decoded : Utf8.utf8to16 [97] = some [97] := by decide
  rw [writesInside_iff_of_le decoded (Nat.le_refl _)]
  exact Nat.lt_irrefl _

end Conversion

end Utilities

end WarheadBot
