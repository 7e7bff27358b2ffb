import WarheadBot.CalendarTime
import WarheadBot.Log

/-!
# The pattern of a log channel

A channel writes a message after a pattern.  `ParsePattern` cuts the pattern
into actions, each with the text that stands before it, and `Format` appends
that text and what the key of the action stands for.

The time of a message is broken down by a parameter, the `localtime` of the
library.  Another one is `maxSize`, the number of characters that a string can
have at most: an append beyond it throws.
-/

namespace WarheadBot

namespace Logging

open Calendar
open Config (Text)
open Fields (stringToInteger)
open LastSeparator

/-- A message; its time is the number of nanoseconds of the system clock. -/
structure LogMessage where
  source : Text
  text : Text
  level : LogLevel
  time : Int
  file : Text
  line : Nat
  option : Text
  deriving DecidableEq

structure PatternAction where
  key : Char
  length : Nat
  property : Text
  prepend : Text
  deriving DecidableEq, Repr

/-- What is left of the pattern behind a closing bracket. -/
def behindBracket (text : Text) : Text :=
  (text.dropWhile (· ≠ ']')).tail

theorem behindBracket_length_le (text : Text) : (behindBracket text).length ≤ text.length := by
  unfold behindBracket
  have dropped := (List.dropWhile_suffix (p := (· ≠ ']')) (l := text)).length_le
  rw [List.length_tail]
  omega

/-- The actions of the rest of a pattern, with the text before it that belongs to
no action yet. -/
def parseActions (prepend : Text) (text : Text) : Except Text (List PatternAction) :=
  match text with
  | [] => .ok (if prepend = [] then [] else [⟨'\x00', 0, [], prepend⟩])
  | char :: rest =>
      if char ≠ '%' then parseActions (prepend ++ [char]) rest
      else
        match rest with
        | [] => .ok (if prepend = [] then [] else [⟨'\x00', 0, [], prepend⟩])
        | key :: after =>
            if key = '[' then
              (parseActions [] (behindBracket after)).map fun actions =>
                ⟨'x', 0, after.takeWhile (· ≠ ']'), prepend⟩ :: actions
            else if after.head? = some '[' then
              let number := after.tail.takeWhile (· ≠ ']')
              match stringToInteger false .eight (String.ofList number) with
              | none => .error ("ParsePattern: Error at conver lenght from ".toList ++ number)
              | some length =>
                  (parseActions [] (behindBracket after.tail)).map fun actions =>
                    ⟨key, length.toNat, [], prepend⟩ :: actions
            else
              (parseActions [] after).map fun actions => ⟨key, 0, [], prepend⟩ :: actions
termination_by text.length
decreasing_by
  all_goals simp only [List.length_cons]
  · omega
  · have shorter := behindBracket_length_le after
    omega
  · have shorter := behindBracket_length_le after.tail
    rw [List.length_tail] at shorter
    omega
  · omega

def parsePattern (pattern : Text) : Except Text (List PatternAction) :=
  if pattern = [] then .error "Pattern is empty".toList
  else
    match parseActions [] pattern with
    | .error message => .error message
    | .ok [] => .error ("ParsePattern: Error at parse pattern '".toList ++ pattern ++ "'".toList)
    | .ok actions => .ok actions

/-- `std::filesystem::path::filename`. -/
def filename (path : Text) : Text :=
  match splitLast '/' path with
  | some (_, name) => name
  | none => path

/-- The number of whole seconds since the epoch. -/
def epochSeconds (time : Int) : Int :=
  time.tdiv 1000000000

/-- The source of a message in a given length; it is cropped at its beginning. -/
def sizedSource (length : Nat) (source : Text) : Text :=
  if source.length < length then source ++ List.replicate (length - source.length) ' '
  else if length ≠ 0 ∧ length < source.length then source.drop (source.length - length)
  else source

section Format

variable (localtime : Int → Tm) (msg : LogMessage)

/-- The text that the key of an action stands for. -/
def keyText (length : Nat) : Char → Text
  | 's' => msg.source
  | 't' => msg.text
  | 'l' => Nat.toDigits 10 msg.level.value
  | 'p' => (getLogLevelName msg.level).toList
  | 'q' => (getLogLevelName msg.level).toList.take 1
  | 'U' => msg.file
  | 'O' => if msg.file = [] then [] else filename msg.file
  | 'u' => Nat.toDigits 10 msg.line
  | 'w' => (wdayShortName (localtime msg.time)).toList
  | 'W' => (wdayFullName (localtime msg.time)).toList
  | 'b' => (monShortName (localtime msg.time)).toList
  | 'B' => (monFullName (localtime msg.time)).toList
  | 'd' => write2 (localtime msg.time).mday
  | 'm' => write2 ((localtime msg.time).mon + 1)
  -- The format is `%Om`.
  | 'n' => write2 ((localtime msg.time).mon + 1)
  | 'y' => write2 ((localtime msg.time).year.natAbs % 100)
  | 'Y' => writeYear (localtime msg.time).year
  -- The formats of the hours are `%OH` here and `%OI` below.
  | 'h' => write2 (localtime msg.time).hour
  | 'H' => write2 (localtime msg.time).hour12
  | 'A' => if (localtime msg.time).hour.val < 12 then ['A', 'M'] else ['P', 'M']
  | 'M' => write2 (localtime msg.time).min
  | 'S' => write2 (localtime msg.time).sec
  | 'E' => (toString (epochSeconds msg.time)).toList
  | 'v' => sizedSource length msg.source
  | _ => []

def actionText (action : PatternAction) : Text :=
  action.prepend ++ keyText localtime msg action.length action.key

/-- `std::string::append`. -/
def append (maxSize : Nat) (text more : Text) : Option Text :=
  if text.length + more.length ≤ maxSize then some (text ++ more) else none

/-- The loop of `Format`. -/
def appendActions (maxSize : Nat) : List PatternAction → Text → Option Text
  | [], text => some text
  | action :: patternActions, text =>
      (append maxSize text action.prepend).bind fun prepended =>
        (append maxSize prepended (keyText localtime msg action.length action.key)).bind
          fun replaced => appendActions maxSize patternActions replaced

/-- `text` is what the channel has before the pattern is applied; there is no
result if the text gets too long. -/
def format (maxSize : Nat) (patternActions : List PatternAction) (text : Text) : Option Text :=
  if patternActions = [] then some text
  else appendActions localtime msg maxSize patternActions []

theorem appendActions_eq {maxSize : Nat} {text : Text} (fits : text.length ≤ maxSize)
    (patternActions : List PatternAction) :
    appendActions localtime msg maxSize patternActions text =
      append maxSize text (patternActions.flatMap (actionText localtime msg)) := by
  induction patternActions generalizing text with
  | nil => simp [appendActions, append, fits]
  | cons action patternActions ih =>
      rw [appendActions, List.flatMap_cons, actionText]
      by_cases prepends : text.length + action.prepend.length ≤ maxSize
      · rw [append, if_pos prepends, Option.bind_some]
        by_cases replaces : text.length + action.prepend.length +
            (keyText localtime msg action.length action.key).length ≤ maxSize
        · rw [append, if_pos (by simpa using replaces), Option.bind_some,
            ih (by simpa [Nat.add_assoc] using replaces)]
          simp [append, Nat.add_assoc]
        · rw [append, if_neg (by simpa using replaces), Option.bind_none, append, if_neg]
          simp only [List.length_append]
          omega
      · rw [append, if_neg prepends, Option.bind_none, append, if_neg]
        simp only [List.length_append]
        omega

/-- All that counts is whether the text as a whole is too long. -/
theorem format_eq_some_iff {maxSize : Nat} {patternActions : List PatternAction}
    (nonempty : patternActions ≠ []) {text written : Text} :
    format localtime msg maxSize patternActions text = some written ↔
      patternActions.flatMap (actionText localtime msg) = written ∧
        written.length ≤ maxSize := by
  rw [format, if_neg nonempty, appendActions_eq localtime msg (Nat.zero_le maxSize), append,
    List.length_nil, Nat.zero_add, List.nil_append]
  constructor
  · intro formatted
    split_ifs at formatted with fits
    obtain rfl := Option.some.inj formatted
    exact ⟨rfl, fits⟩
  · rintro ⟨rfl, fits⟩
    rw [if_pos fits]

end Format

end Logging

end WarheadBot
