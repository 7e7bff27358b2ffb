import WarheadBot.ByteBuffer

/-!
# Checked output into a buffer

The iterator of `Containers.h` that writes into a buffer of a fixed size.  An
element that would be put behind the end is an exception, and the buffer stays as
it is; what is written outside of the buffer all the same is an error.
-/

namespace WarheadBot

namespace Containers

open ByteBuffer

/-- The addresses of the next element and of the end. -/
structure CheckedBufferOutputIterator where
  buf : Nat
  bufEnd : Nat
  buf_le : buf ≤ bufEnd

namespace CheckedBufferOutputIterator

variable {Element : Type*}

def start (size : Nat) : CheckedBufferOutputIterator :=
  ⟨0, size, Nat.zero_le size⟩

def remaining (out : CheckedBufferOutputIterator) : Nat :=
  out.bufEnd - out.buf

/-- `*out++ = element`: the iterator behind the element, or `none` for an
exception, and the buffer. -/
def put (out : CheckedBufferOutputIterator) (element : Element) (buffer : Buffer Element) :
    Option (Option CheckedBufferOutputIterator × Buffer Element) :=
  if inside : out.buf < out.bufEnd then
    (buffer.write out.buf [element]).map fun written =>
      (some ⟨out.buf + 1, out.bufEnd, inside⟩, written)
  else some (none, buffer)

/-- What follows is not done after an exception. -/
def andThen (following : CheckedBufferOutputIterator → Buffer Element →
      Option (Option CheckedBufferOutputIterator × Buffer Element)) :
    Option CheckedBufferOutputIterator × Buffer Element →
      Option (Option CheckedBufferOutputIterator × Buffer Element)
  | (none, buffer) => some (none, buffer)
  | (some out, buffer) => following out buffer

def putAll : List Element → CheckedBufferOutputIterator → Buffer Element →
    Option (Option CheckedBufferOutputIterator × Buffer Element)
  | [], out, buffer => some (some out, buffer)
  | element :: elements, out, buffer =>
      (out.put element buffer).bind (andThen (putAll elements))

variable {out : CheckedBufferOutputIterator} {buffer : Buffer Element}

theorem put_of_lt {element : Element} (inside : out.buf < out.bufEnd)
    (within : out.bufEnd ≤ buffer.size) :
    ∃ written, buffer.write out.buf [element] = some written ∧
      out.put element buffer = some (some ⟨out.buf + 1, out.bufEnd, inside⟩, written) := by
  have fits : out.buf + [element].length ≤ buffer.size := by
    rw [List.length_singleton]
    omega
  obtain ⟨written, wrote⟩ := exists_write fits
  refine ⟨written, wrote, ?_⟩
  rw [put, dif_pos inside, wrote]
  rfl

theorem put_of_le {element : Element} (full : out.bufEnd ≤ out.buf) :
    out.put element buffer = some (none, buffer) :=
  dif_neg (Nat.not_lt.mpr full)

theorem bind_andThen_bind
    (moved : Option (Option CheckedBufferOutputIterator × Buffer Element))
    (first second : CheckedBufferOutputIterator → Buffer Element →
      Option (Option CheckedBufferOutputIterator × Buffer Element)) :
    (moved.bind (andThen first)).bind (andThen second) =
      moved.bind (andThen fun out buffer => (first out buffer).bind (andThen second)) := by
  rw [Option.bind_assoc]
  congr 1
  funext ⟨out, written⟩
  cases out with
  | none => rfl
  | some out => rfl

theorem putAll_append (first second : List Element) (out : CheckedBufferOutputIterator)
    (buffer : Buffer Element) :
    putAll (first ++ second) out buffer =
      (putAll first out buffer).bind (andThen (putAll second)) := by
  induction first generalizing out buffer with
  | nil => rfl
  | cons element first ih =>
      rw [List.cons_append, putAll, putAll, bind_andThen_bind]
      congr 2
      funext out buffer
      exact ih out buffer

/-- Elements that there is room for are written as a whole. -/
theorem putAll_of_le {elements : List Element} (within : out.bufEnd ≤ buffer.size)
    (room : out.buf + elements.length ≤ out.bufEnd) :
    ∃ written, buffer.write out.buf elements = some written ∧
      putAll elements out buffer =
        some (some ⟨out.buf + elements.length, out.bufEnd, room⟩, written) := by
  induction elements generalizing out buffer with
  | nil =>
      refine ⟨buffer, write_nil ?_, rfl⟩
      exact out.buf_le.trans within
  | cons element elements ih =>
      rw [List.length_cons] at room
      have inside : out.buf < out.bufEnd := by omega
      obtain ⟨middle, wrote, put⟩ := @put_of_lt _ out buffer element inside within
      have size := size_of_write wrote
      have later : out.buf + 1 + elements.length ≤ out.bufEnd := by omega
      obtain ⟨written, wroteOthers, putOthers⟩ :=
        @ih ⟨out.buf + 1, out.bufEnd, inside⟩ middle (by rwa [size]) later
      refine ⟨written, ?_, ?_⟩
      · have composed := write_append buffer out.buf [element] elements
        rwa [wrote, Option.bind_some, List.length_singleton, wroteOthers, eq_comm] at composed
      · rw [putAll, put, Option.bind_some, andThen, putOthers]
        simp only [List.length_cons, Option.some.injEq, Prod.mk.injEq, and_true,
          CheckedBufferOutputIterator.mk.injEq]
        omega

theorem putAll_of_lt {elements : List Element} (within : out.bufEnd ≤ buffer.size)
    (full : out.bufEnd < out.buf + elements.length) :
    ∃ written, putAll elements out buffer = some (none, written) ∧
      written.size = buffer.size := by
  induction elements generalizing out buffer with
  | nil =>
      have ordered := out.buf_le
      rw [List.length_nil] at full
      omega
  | cons element elements ih =>
      rw [List.length_cons] at full
      rcases Nat.lt_or_ge out.buf out.bufEnd with inside | behind
      · obtain ⟨middle, wrote, put⟩ := @put_of_lt _ out buffer element inside within
        have size := size_of_write wrote
        have later : out.bufEnd < out.buf + 1 + elements.length := by omega
        obtain ⟨written, thrown, sizeWritten⟩ :=
          @ih ⟨out.buf + 1, out.bufEnd, inside⟩ middle (by rwa [size]) later
        refine ⟨written, ?_, sizeWritten.trans size⟩
        rw [putAll, put, Option.bind_some, andThen, thrown]
      · refine ⟨buffer, ?_, rfl⟩
        rw [putAll, put_of_le behind, Option.bind_some, andThen]

/-- Elements that the buffer is too small for end with an exception, whatever
comes after them. -/
theorem putAll_bind_of_thrown {elements : List Element} (within : out.bufEnd ≤ buffer.size)
    {following : CheckedBufferOutputIterator → Buffer Element →
      Option (Option CheckedBufferOutputIterator × Buffer Element)}
    (throws : ∀ out buffer, following out buffer = some (none, buffer)) :
    ∃ written, (putAll elements out buffer).bind (andThen following) = some (none, written) ∧
      written.size = buffer.size := by
  rcases Nat.lt_or_ge out.bufEnd (out.buf + elements.length) with full | room
  · obtain ⟨written, thrown, size⟩ := putAll_of_lt within full
    refine ⟨written, ?_, size⟩
    rw [thrown, Option.bind_some, andThen]
  · obtain ⟨written, wrote, moved⟩ := putAll_of_le within room
    refine ⟨written, ?_, size_of_write wrote⟩
    rw [moved, Option.bind_some, andThen, throws]

end CheckedBufferOutputIterator

end Containers

end WarheadBot
