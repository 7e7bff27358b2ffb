import WarheadBot.GuardedRuns
import WarheadBot.GuildPlayersUnique
import WarheadBot.PlayerNames

/-!
# Deleting by the typed name

A deletion compares the normal form of the typed name with the nicknames of the
guild byte by byte, ASCII letters in either case, and takes the first that
matches; a name that cannot be normalized is compared as it was typed.  All
nicknames that joins put into the table are normal forms, and for these the
comparison is equality.
-/

namespace WarheadBot

namespace GuildPlayers

open CheckRoles (Snowflake)
open GuardedRuns
open PlayerNames (charCase normalizePlayerName_text)

/-- A nickname that is its own normal form. -/
def IsNormal (nickname : String) : Prop := normalizePlayerName nickname = (true, nickname)

instance (nickname : String) : Decidable (IsNormal nickname) :=
  inferInstanceAs (Decidable (_ = _))

theorem normalizePlayerName_eq_true_iff {name result : String} :
    normalizePlayerName name = (true, result) ↔
      name.toList ≠ [] ∧ ' ' ∉ name.toList ∧ charCase.canonical name.toList = result.toList := by
  rw [normalizePlayerName_text]
  split_ifs with refused
  · simp only [Prod.mk.injEq, Bool.false_eq_true, false_and, false_iff]
    tauto
  · rw [not_or] at refused
    simp only [Prod.mk.injEq, true_and, Ne, refused, not_false_eq_true]
    rw [← String.toList_inj, String.toList_ofList]

theorem isNormal_iff {nickname : String} :
    IsNormal nickname ↔ nickname.toList ≠ [] ∧ ' ' ∉ nickname.toList ∧
      charCase.canonical nickname.toList = nickname.toList :=
  normalizePlayerName_eq_true_iff

theorem toNat_toLower (char : Char) :
    char.toLower.toNat =
      if 0x41 ≤ char.toNat ∧ char.toNat ≤ 0x5A then char.toNat + 0x20 else char.toNat := by
  unfold Char.toLower
  simp only [ge_iff_le, UInt32.le_iff_toNat_le, Char.toNat_val,
    show 'A'.toNat = 0x41 from rfl, show 'Z'.toNat = 0x5A from rfl]
  split_ifs with letter
  · have distance : ('a'.val - 'A'.val).toNat = 0x20 := rfl
    rw [Char.toNat_mk, UInt32.toNat_add, Char.toNat_val, distance]
    exact Nat.mod_eq_of_lt (by omega)
  · rfl

/-- The comparison of bytes does not separate what the tables hold together. -/
theorem lower_toLower (char : Char) : charCase.lower char.toLower = charCase.lower char := by
  have lowered := PlayerNames.toNat_lowerChar
  apply Char.toNat_inj.mp
  refine (lowered char.toLower).trans (Eq.trans ?_ (lowered char).symm)
  rw [toNat_toLower]
  split_ifs with letter
  · have pair : PlayerNames.CasePair char.toNat (char.toNat + 0x20) :=
      Or.inl ⟨Or.inl letter, rfl⟩
    rw [pair.lowerCode_small, pair.lowerCode_capital]
  · rfl

theorem toLower_eq_space_iff {char : Char} : char.toLower = ' ' ↔ char = ' ' := by
  rw [← Char.toNat_inj, ← Char.toNat_inj, toNat_toLower, show ' '.toNat = 0x20 from rfl]
  split_ifs <;> omega

theorem space_mem_canonical_iff {name : List Char} :
    ' ' ∈ charCase.canonical name ↔ ' ' ∈ name := by
  apply charCase.mem_canonical_iff
  · intro other
    rw [← Char.toNat_inj, ← Char.toNat_inj]
    exact (PlayerNames.toNat_lowerChar other).symm ▸ PlayerNames.lowerCode_eq_space_iff
  · intro other
    rw [← Char.toNat_inj, ← Char.toNat_inj]
    exact (PlayerNames.toNat_upperChar other).symm ▸ PlayerNames.upperCode_eq_space_iff

theorem isNormal_of_normalizePlayerName {name result : String}
    (accepted : normalizePlayerName name = (true, result)) : IsNormal result := by
  obtain ⟨some, noSpace, canonical⟩ := normalizePlayerName_eq_true_iff.mp accepted
  rw [isNormal_iff, ← canonical, charCase.canonical_canonical, space_mem_canonical_iff,
    Ne, charCase.canonical_eq_nil_iff]
  exact ⟨some, noSpace, rfl⟩

theorem stringEqualI_iff {first second : String} :
    stringEqualI first second ↔
      first.toList.map Char.toLower = second.toList.map Char.toLower := by
  rw [stringEqualI, decide_eq_true_eq]

/-- Normal forms are compared exactly. -/
theorem stringEqualI_iff_eq {nickname other : String} (normal : IsNormal nickname)
    (otherNormal : IsNormal other) : stringEqualI nickname other ↔ nickname = other := by
  rw [stringEqualI_iff]
  constructor
  · intro same
    have lowered := congrArg (List.map charCase.lower) same
    simp only [List.map_map, Function.comp_def, lower_toLower] at lowered
    have canonical := charCase.canonical_eq_iff.mpr lowered
    rw [(isNormal_iff.mp normal).2.2, (isNormal_iff.mp otherNormal).2.2] at canonical
    exact String.toList_inj.mp canonical
  · intro same
    rw [same]

/-- A name that cannot be normalized is compared with no nickname successfully. -/
theorem not_stringEqualI_of_refused {nickname typed : String} (normal : IsNormal nickname)
    (refused : typed.toList = [] ∨ ' ' ∈ typed.toList) : ¬stringEqualI nickname typed := by
  obtain ⟨some, noSpace, -⟩ := isNormal_iff.mp normal
  rw [stringEqualI_iff]
  intro same
  obtain empty | space := refused
  · rw [empty, List.map_nil, List.map_eq_nil_iff] at same
    exact some same
  · have shared : ' ' ∈ nickname.toList.map Char.toLower := by
      rw [same]
      exact List.mem_map.mpr ⟨' ', space, rfl⟩
    obtain ⟨char, inside, lowered⟩ := List.mem_map.mp shared
    rw [toLower_eq_space_iff.mp lowered] at inside
    exact noSpace inside

/-- A nickname of the guild matches what was typed if it is its normal form. -/
theorem stringEqualI_typed_iff {nickname : String} (normal : IsNormal nickname)
    (typed : String) :
    stringEqualI nickname (normalizePlayerName typed).2 ↔
      normalizePlayerName typed = (true, nickname) := by
  cases result : normalizePlayerName typed with
  | mk accepted target =>
      cases accepted with
      | true =>
          rw [stringEqualI_iff_eq normal (isNormal_of_normalizePlayerName result), Prod.mk.injEq,
            eq_self, true_and, eq_comm]
      | false =>
          rw [normalizePlayerName_text] at result
          split_ifs at result with refused
          · cases result
            exact iff_of_false (not_stringEqualI_of_refused normal refused) nofun
          · cases result

/-- The nickname that a join will store is a normal form. -/
def Request.Normal : Request → Prop
  | .selecting join => IsNormal join.saveNickName
  | .selected join _ => IsNormal join.saveNickName
  | .inserting row => IsNormal row.nickname
  | _ => True

structure State.Normal (guildId : Snowflake) (state : State) : Prop where
  rows : ∀ row ∈ state.table, row.guildId = guildId → IsNormal row.nickname
  requests : ∀ request ∈ state.requests, request.Normal

theorem normal_of_onFormSubmit {event : FormSubmit} {join : Join}
    (passed : (onFormSubmit event).2 = some join) : IsNormal join.saveNickName := by
  unfold onFormSubmit at passed
  cases result : normalizePlayerName event.nickName with
  | mk valid nickName =>
      rw [result] at passed
      cases valid with
      | false => cases passed
      | true =>
          have normal := isNormal_of_normalizePlayerName result
          dsimp only at passed
          rw [if_neg (by decide)] at passed
          cases number : stringToInt32 event.ilvlStr with
          | none =>
              rw [number] at passed
              cases passed
          | some avgIlvl =>
              rw [number] at passed
              cases passed
              rw [addGuildNickName, normal]
              exact normal

theorem Request.move_normal {move : Move} {table next : List Row} {request changed : Request}
    (moved : request.move move table = some (next, changed)) (normal : request.Normal) :
    changed.Normal := by
  cases proceeds_of_move moved with
  | select join succeeds => exact normal
  | clear join => exact normal
  | _ => trivial

theorem Request.move_normal_rows {guildId : Snowflake} {move : Move} {table next : List Row}
    {request changed : Request} (moved : request.move move table = some (next, changed))
    (normal : request.Normal)
    (rows : ∀ row ∈ table, row.guildId = guildId → IsNormal row.nickname) :
    ∀ row ∈ next, row.guildId = guildId → IsNormal row.nickname := by
  intro row stored sameGuild
  cases proceeds_of_move moved with
  | insert inserted =>
      rcases mem_insertRow stored with old | rfl
      · exact rows row old sameGuild
      · exact normal
  | delete guild nickname => exact rows row (List.mem_filter.mp stored).1 sameGuild
  | _ => exact rows row stored sameGuild

theorem normal_step {guildId : Snowflake} {state next : State} {label : Label}
    (normal : state.Normal guildId) (moved : step state label = some next) :
    next.Normal guildId := by
  have added {request : Request} (fresh : request.Normal) :
      State.Normal guildId { state with requests := state.requests ++ [request] } := by
    refine ⟨normal.rows, ?_⟩
    intro other inside
    rcases List.mem_append.mp inside with old | new
    · exact normal.requests other old
    · rw [List.mem_singleton.mp new]
      exact fresh
  cases label with
  | formSubmit event =>
      simp only [step] at moved
      split at moved
      · rename_i join passed
        cases moved
        exact added (normal_of_onFormSubmit passed)
      · cases moved
        exact normal
  | guildDel guild nickname =>
      cases moved
      exact added trivial
  | move index move =>
      obtain ⟨⟨table, requests⟩, happened, rfl⟩ := Option.map_eq_some_iff.mp moved
      refine ⟨?_, ?_⟩
      · obtain ⟨_, request, _, _, _, found, requestMoved, _⟩ := Parties.moveAt_eq_some happened
        exact Request.move_normal_rows requestMoved
          (normal.requests request (List.mem_of_getElem? found)) normal.rows
      · apply Parties.forall_of_moveAt happened _ normal.requests
        intro request changed _ requestNormal requestMoved
        exact Request.move_normal requestMoved requestNormal

theorem normal_start {guildId : Snowflake} {table : List Row}
    (empty : ∀ row ∈ table, row.guildId ≠ guildId) : (State.start table).Normal guildId where
  rows row stored sameGuild := absurd sameGuild (empty row stored)
  requests := nofun

/-- The callback deletes the nickname that the typed name means, if the guild
has it. -/
theorem guildDelCallback_iff {guildId : Snowflake} {typed nickname : String} {rows : List Row}
    (normal : ∀ row ∈ rows, IsNormal row.nickname) :
    (guildDelCallback (guildDelHandler guildId typed) rows).2 = some nickname ↔
      normalizePlayerName typed = (true, nickname) ∧ ∃ row ∈ rows, row.nickname = nickname := by
  have callback : (guildDelCallback (guildDelHandler guildId typed) rows).2 =
      (rows.find? fun row =>
        stringEqualI row.nickname (normalizePlayerName typed).2).map Row.nickname := by
    unfold guildDelCallback guildDelHandler
    cases rows with
    | nil => rfl
    | cons first rest =>
        rw [if_neg (by simp)]
        dsimp only
        cases (first :: rest).find? fun row =>
            stringEqualI row.nickname (normalizePlayerName typed).2 <;> rfl
  rw [callback, Option.map_eq_some_iff]
  constructor
  · rintro ⟨row, found, rfl⟩
    have stored := List.mem_of_find?_eq_some found
    have matching := List.find?_some found
    exact ⟨(stringEqualI_typed_iff (normal row stored) typed).mp matching, row, stored, rfl⟩
  · rintro ⟨accepted, row, stored, rfl⟩
    have matching := (stringEqualI_typed_iff (normal row stored) typed).mpr accepted
    cases found : rows.find? fun row =>
        stringEqualI row.nickname (normalizePlayerName typed).2 with
    | none => exact absurd matching (List.find?_eq_none.mp found row stored)
    | some first =>
        have firstStored := List.mem_of_find?_eq_some found
        have firstMatching := List.find?_some found
        have meant :=
          (stringEqualI_typed_iff (normal first firstStored) typed).mp firstMatching
        rw [accepted, Prod.mk.injEq] at meant
        exact ⟨first, rfl, meant.2.symm⟩

/-- `GuildDelHandler` without another request in between: the rows of the guild
are listed, in the order of the server, and the callback runs. -/
def guildDelRun (state : State) (guildId : Snowflake) (typed : String) (rows : List Row) :
    List Label :=
  [.guildDel guildId typed, .move state.requests.length (.answer rows),
    .move state.requests.length .callback]

theorem exec_guildDelRun {state final : State} {guildId : Snowflake} {typed : String}
    {rows : List Row}
    (served : exec step state (guildDelRun state guildId typed rows) = some final) :
    rows.Perm (state.table.filter fun row => row.guildId = guildId) ∧
      final.table = state.table ∧ ∃ outcome, final.requests = state.requests ++ [outcome] ∧
        ∀ otherId nickname, outcome = .deleting otherId nickname ↔
          otherId = guildId ∧
            (guildDelCallback (guildDelHandler guildId typed) rows).2 = some nickname := by
  obtain ⟨asked, moved, rest⟩ := exec_cons.mp served
  cases moved
  obtain ⟨answered, moved, rest⟩ := exec_cons.mp rest
  simp only [step, Parties.moveAt_length, Request.move] at moved
  split_ifs at moved with permuted
  · cases moved
    obtain ⟨last, moved, rest⟩ := exec_cons.mp rest
    cases rest
    simp only [step, Parties.moveAt_length, Request.move] at moved
    refine ⟨permuted, ?_⟩
    cases chosen : (guildDelCallback (guildDelHandler guildId typed) rows).2 with
    | none =>
        rw [chosen] at moved
        cases moved
        refine ⟨rfl, .finished, rfl, ?_⟩
        intro otherId nickname
        simp only [reduceCtorEq, and_false]
    | some found =>
        rw [chosen] at moved
        cases moved
        refine ⟨rfl, .deleting guildId found, rfl, ?_⟩
        intro otherId nickname
        rw [Request.deleting.injEq, Option.some.injEq, @eq_comm _ guildId]
  · cases moved

/-- Once the nicknames of a guild come from joins only, a deletion enqueues a
`DELETE` for the normal form of the typed name if the guild has it, and no
other. -/
theorem guildDel_deletes_iff {guildId : Snowflake} {table : List Row} {labels : List Label}
    {state final : State} {typed : String} {rows : List Row}
    (empty : ∀ row ∈ table, row.guildId ≠ guildId)
    (reached : exec step (State.start table) labels = some state)
    (served : exec step state (guildDelRun state guildId typed rows) = some final) :
    final.table = state.table ∧ ∃ outcome, final.requests = state.requests ++ [outcome] ∧
      ∀ otherId nickname, outcome = .deleting otherId nickname ↔
        otherId = guildId ∧ normalizePlayerName typed = (true, nickname) ∧
          ∃ row ∈ state.table, row.guildId = guildId ∧ row.nickname = nickname := by
  have normal := exec_invariant_of_step normal_step reached (normal_start empty)
  obtain ⟨permuted, sameTable, outcome, requests, issued⟩ := exec_guildDelRun served
  have member (row : Row) : row ∈ rows ↔ row ∈ state.table ∧ row.guildId = guildId := by
    rw [permuted.mem_iff, List.mem_filter, decide_eq_true_eq]
  refine ⟨sameTable, outcome, requests, ?_⟩
  intro otherId nickname
  have listed : ∀ row ∈ rows, IsNormal row.nickname := by
    intro row inside
    obtain ⟨stored, sameGuild⟩ := (member row).mp inside
    exact normal.rows row stored sameGuild
  rw [issued, guildDelCallback_iff listed]
  simp only [member, and_assoc]

theorem guildDel_deletes_arthas :
    ∃ state final, exec step (State.start []) joinsInTurn = some state ∧
      exec step state (guildDelRun state 10 "aRTHAS" state.table) = some final ∧
        final.requests = state.requests ++ [.deleting 10 "Arthas"] := by
  have reached : exec step (State.start []) joinsInTurn =
      some ⟨[⟨10, 1, "Arthas", 200, "mage"⟩], [.finished, .finished]⟩ := by
    decide +kernel
  obtain ⟨final, served⟩ : ∃ final,
      exec step ⟨[⟨10, 1, "Arthas", 200, "mage"⟩], [.finished, .finished]⟩
        (guildDelRun ⟨[⟨10, 1, "Arthas", 200, "mage"⟩], [.finished, .finished]⟩ 10 "aRTHAS"
          [⟨10, 1, "Arthas", 200, "mage"⟩]) = some final :=
    ⟨⟨[⟨10, 1, "Arthas", 200, "mage"⟩], [.finished, .finished, .deleting 10 "Arthas"]⟩, by
      decide +kernel⟩
  obtain ⟨-, outcome, requests, issued⟩ := guildDel_deletes_iff (by simp) reached served
  have typed : normalizePlayerName "aRTHAS" = (true, "Arthas") := by
    decide +kernel
  rw [(issued 10 "Arthas").mpr ⟨rfl, typed, _, List.mem_singleton_self _, rfl, rfl⟩] at requests
  exact ⟨_, final, reached, served, requests⟩

end GuildPlayers

end WarheadBot
