import WarheadBot.MySQLConnectionInfo
import WarheadBot.TextPositions

/-!
# Tokens of a text

`Warhead::Tokenize` goes through a text with the position where a token starts and
the position of the separator behind it, and treats what is behind the last
separator by itself.
-/

namespace WarheadBot

namespace Utilities

open TextPositions (find substr le_and_lt_of_find find_append_cons find_append_of_not_mem
  substr_append cut_induction)

variable {Element : Type*} [DecidableEq Element]

section Loop

variable (str : List Element) (sep : Element) (keepEmpty : Bool)

/-- `emplace_back` of a part of the text, if the condition before it holds; the position
must be one of the text. -/
def addToken (condition : Bool) (start count : Nat) (tokens : List (List Element)) :
    Option (List (List Element)) :=
  if keepEmpty || condition then
    (substr str start count).map fun token => tokens ++ [token]
  else some tokens

/-- The loop from a start, and what is done behind it. -/
def tokenizeFrom (start : Nat) (tokens : List (List Element)) : Option (List (List Element)) :=
  match _found : find sep str start with
  | some finish =>
      (addToken str keepEmpty (start < finish) start (finish - start) tokens).bind
        (tokenizeFrom (finish + 1))
  | none => addToken str keepEmpty (start < str.length) start (str.length - start) tokens
termination_by str.length - start
decreasing_by
  have := le_and_lt_of_find _found
  omega

def tokenize : Option (List (List Element)) :=
  tokenizeFrom str sep keepEmpty 0 []

end Loop

section Steps

variable {sep : Element} {keepEmpty : Bool} {before middle behind : List Element}
  {tokens : List (List Element)}

omit [DecidableEq Element] in
theorem addToken_part :
    addToken (before ++ (middle ++ behind)) keepEmpty
        (before.length < before.length + middle.length) before.length middle.length tokens =
      some (tokens ++ [middle].filter fun token => keepEmpty || token ≠ []) := by
  rw [addToken, substr_append]
  cases keepEmpty with
  | true => rfl
  | false =>
      cases middle with
      | nil => simp
      | cons first rest => simp

theorem tokenizeFrom_of_mem (absent : sep ∉ middle) :
    tokenizeFrom (before ++ (middle ++ sep :: behind)) sep keepEmpty before.length tokens =
      tokenizeFrom (before ++ (middle ++ sep :: behind)) sep keepEmpty
        (before.length + middle.length + 1)
        (tokens ++ [middle].filter fun token => keepEmpty || token ≠ []) := by
  rw [tokenizeFrom]
  split
  · rename_i finish occurs
    rw [find_append_cons absent] at occurs
    obtain rfl := Option.some.inj occurs
    rw [Nat.add_sub_cancel_left, addToken_part, Option.bind_some]
  · rename_i nowhere
    rw [find_append_cons absent] at nowhere
    exact nomatch nowhere

theorem tokenizeFrom_of_not_mem (absent : sep ∉ middle) :
    tokenizeFrom (before ++ middle) sep keepEmpty before.length tokens =
      some (tokens ++ [middle].filter fun token => keepEmpty || token ≠ []) := by
  rw [tokenizeFrom]
  split
  · rename_i finish occurs
    rw [find_append_of_not_mem absent] at occurs
    exact nomatch occurs
  · have part := @addToken_part Element keepEmpty before middle [] tokens
    rw [List.append_nil] at part
    rw [List.length_append, Nat.add_sub_cancel_left]
    exact part

end Steps

/-- From a start on, the loop adds the tokens of what is behind it. -/
theorem tokenizeFrom_eq (sep : Element) (keepEmpty : Bool) (rest before : List Element)
    (tokens : List (List Element)) :
    tokenizeFrom (before ++ rest) sep keepEmpty before.length tokens =
      some (tokens ++ (rest.splitOn sep).filter fun token => keepEmpty || token ≠ []) := by
  induction rest using cut_induction sep generalizing before tokens with
  | last rest absent => rw [tokenizeFrom_of_not_mem absent, List.splitOn_eq_singleton absent]
  | cut middle behind absent ih =>
      have later := ih (before ++ middle ++ [sep])
        (tokens ++ [middle].filter fun token => keepEmpty || token ≠ [])
      rw [List.append_assoc, List.append_assoc, List.singleton_append, List.length_append,
        List.length_append, List.length_singleton] at later
      rw [tokenizeFrom_of_mem absent, later,
        List.splitOn_append_cons_self_of_not_mem absent, List.append_assoc,
        ← List.filter_append, List.singleton_append]

theorem tokenize_eq (str : List Element) (sep : Element) (keepEmpty : Bool) :
    tokenize str sep keepEmpty =
      some ((str.splitOn sep).filter fun token => keepEmpty || token ≠ []) :=
  tokenizeFrom_eq sep keepEmpty str [] []

theorem not_mem_of_mem_splitOn {sep : Element} {str : List Element} :
    ∀ token ∈ str.splitOn sep, sep ∉ token := by
  induction str using cut_induction sep with
  | last rest absent =>
      rw [List.splitOn_eq_singleton absent]
      intro token inside
      rwa [List.mem_singleton.mp inside]
  | cut middle behind absent ih =>
      rw [List.splitOn_append_cons_self_of_not_mem absent]
      exact List.forall_mem_cons.mpr ⟨absent, ih⟩

theorem length_splitOn (sep : Element) (str : List Element) :
    (str.splitOn sep).length = str.count sep + 1 := by
  induction str using cut_induction sep with
  | last rest absent =>
      rw [List.splitOn_eq_singleton absent, List.count_eq_zero_of_not_mem absent]
      rfl
  | cut middle behind absent ih =>
      rw [List.splitOn_append_cons_self_of_not_mem absent, List.length_cons, ih, List.count_append,
        List.count_eq_zero_of_not_mem absent, List.count_cons_self, Nat.zero_add]

/-- With empty tokens, the tokens are what the separators cut the text into; without
them, the empty ones are missing. -/
theorem tokenize_spec (str : List Element) (sep : Element) :
    ∃ tokens, tokenize str sep true = some tokens ∧ (∀ token ∈ tokens, sep ∉ token) ∧
      [sep].intercalate tokens = str ∧ tokens.length = str.count sep + 1 ∧
      tokenize str sep false = some (tokens.filter fun token => token ≠ []) := by
  refine ⟨str.splitOn sep, ?_, not_mem_of_mem_splitOn, List.intercalate_splitOn sep,
    length_splitOn sep str, ?_⟩
  · rw [tokenize_eq]
    simp only [Bool.true_or, List.filter_true]
  · rw [tokenize_eq]
    simp only [Bool.false_or]

/-- The tokens that the configuration is read with are those of the loop. -/
theorem map_tokenize (text : String) (separator : Char) (keepEmpty : Bool) :
    (tokenize text.toList separator keepEmpty).map (List.map String.ofList) =
      some (MySQL.tokenize text separator keepEmpty) := by
  rw [tokenize_eq, Option.map_some, MySQL.tokenize, List.filter_map]
  congr 3
  funext token
  simp

end Utilities

end WarheadBot
