import Mathlib.Data.List.Basic

/-!
# Prefix codes

A code writes each valid symbol as a nonempty word, and a decoder takes one
symbol off the front of a word whenever the word begins with the code of one.
The decoder determines the symbol and what is left, so a word that is put
together from codes is taken apart again.  A conversion decodes a whole word and
writes each symbol in another way.
-/

namespace WarheadBot

structure PrefixCode (Symbol Input : Type*) where
  valid : Symbol → Prop
  encode : Symbol → List Input
  next : List Input → Option (Symbol × List Input)
  next_eq_some_iff : ∀ {word : List Input} {symbol : Symbol} {rest : List Input},
    next word = some (symbol, rest) ↔ valid symbol ∧ word = encode symbol ++ rest
  encode_ne_nil : ∀ {symbol : Symbol}, valid symbol → encode symbol ≠ []

namespace PrefixCode

variable {Symbol Input Output : Type*}

/-- Decode a word and write its symbols; `none` if a symbol cannot be read or
written.  The fuel bounds the number of symbols. -/
def convert (next : List Input → Option (Symbol × List Input))
    (write : Symbol → Option (List Output)) : Nat → List Input → Option (List Output)
  | _, [] => some []
  | 0, _ :: _ => none
  | fuel + 1, first :: word =>
      (next (first :: word)).bind fun (symbol, rest) =>
        (write symbol).bind fun written => (convert next write fuel rest).map fun others =>
          written ++ others

variable (code : PrefixCode Symbol Input)

theorem next_encode {symbol : Symbol} (valid : code.valid symbol) (rest : List Input) :
    code.next (code.encode symbol ++ rest) = some (symbol, rest) :=
  code.next_eq_some_iff.mpr ⟨valid, rfl⟩

variable {code}

/-- A conversion succeeds on the words that are put together from codes of valid
symbols. -/
theorem convert_eq_some_iff {write : Symbol → Option (List Output)}
    {image : Symbol → List Output}
    (writes : ∀ symbol, code.valid symbol → write symbol = some (image symbol)) {fuel : Nat}
    {word : List Input} (enough : word.length ≤ fuel) {result : List Output} :
    convert code.next write fuel word = some result ↔
      ∃ symbols : List Symbol, (∀ symbol ∈ symbols, code.valid symbol) ∧
        word = symbols.flatMap code.encode ∧ result = symbols.flatMap image := by
  constructor
  · intro converted
    clear enough
    induction fuel generalizing word result with
    | zero =>
        cases word with
        | nil =>
            cases converted
            exact ⟨[], by simp, rfl, rfl⟩
        | cons first word => cases converted
    | succ fuel ih =>
        cases word with
        | nil =>
            cases converted
            exact ⟨[], by simp, rfl, rfl⟩
        | cons first word =>
            obtain ⟨⟨symbol, rest⟩, read, later⟩ := Option.bind_eq_some_iff.mp converted
            obtain ⟨written, wrote, last⟩ := Option.bind_eq_some_iff.mp later
            obtain ⟨others, again, rfl⟩ := Option.map_eq_some_iff.mp last
            obtain ⟨valid, split⟩ := code.next_eq_some_iff.mp read
            obtain ⟨symbols, allValid, rfl, rfl⟩ := ih again
            rw [writes symbol valid] at wrote
            cases wrote
            exact ⟨symbol :: symbols, List.forall_mem_cons.mpr ⟨valid, allValid⟩, split, rfl⟩
  · rintro ⟨symbols, valid, rfl, rfl⟩
    induction symbols generalizing fuel with
    | nil => cases fuel <;> rfl
    | cons symbol symbols ih =>
        rw [List.forall_mem_cons] at valid
        rw [List.flatMap_cons] at enough ⊢
        have read := code.next_encode valid.1 (symbols.flatMap code.encode)
        have some := code.encode_ne_nil valid.1
        revert read enough
        cases encoded : code.encode symbol with
        | nil => exact absurd encoded some
        | cons first rest =>
            intro enough read
            cases fuel with
            | zero => cases enough
            | succ fuel =>
                have left : (symbols.flatMap code.encode).length ≤ fuel := by
                  rw [List.cons_append, List.length_cons, List.length_append] at enough
                  omega
                have converted := ih valid.2 left
                rw [List.cons_append] at read ⊢
                simp only [convert, read, Option.bind_some, writes symbol valid.1, converted,
                  Option.map_some, List.flatMap_cons]

end PrefixCode

end WarheadBot
