import Mathlib.Data.Nat.Find
import Mathlib.Order.Basic
import WarheadBot.DBUpdaterApplyFile

/-!
# The two ways to the database

The connections of a pool share one info and open on it in any number of calls of
`Open`, before and after the updater builds its command line from the same info.
This file compares what these calls connect to with what the `mysql` program is
told.  A socket is lost with the first call that gets past `mysql_init`, so that no
second one can agree.
-/

namespace WarheadBot

namespace MySQL

/-- A call of `Open` connects to what the program has reached, if it tries to
connect at all, with TLS exactly if the string asks for it. -/
def OpenCall.Agrees (client : MySQLClient) (reached : Option Access) (ssl : String) :
    OpenCall → Prop
  | notTried => True
  | invalidPort => False
  | connects arguments =>
      reached = some (arguments.access client) ∧
        ((arguments.access client).tls = true ↔ ssl = "ssl")

/-- The first `calls` calls of `Open` on the shared info agree with the command line
that is built after `built` of them. -/
def Agreement (client : MySQLClient) (info : MySQLConnectionInfo) (initialized : Nat → Bool)
    (built calls : Nat) (files : String → Option String) (pathToExtraFile path : String) : Prop :=
  ∀ call < calls, (info.nthCall client.library initialized call).Agrees client
    (applyFileAccess client (makeExtraFile files pathToExtraFile info.password)
      (info.before client.library initialized built) pathToExtraFile path) info.ssl

/-- What the string, the client, the calls and the files have to be for both ways to
agree. -/
structure Consistent (client : MySQLClient) (info : MySQLConnectionInfo)
    (initialized : Nat → Bool) (calls : Nat) (files : String → Option String)
    (pathToExtraFile : String) : Prop where
  host : info.host ≠ ""
  user : info.user ≠ ""
  database : isOption info.database = false
  socket : info.host = "." → info.portOrSocket ≠ "" ∧ startsWithDigit info.portOrSocket = false
  -- Only one call gets past `mysql_init`.
  once : info.host = "." → ∀ first < calls, ∀ second < calls,
    initialized first = true → initialized second = true → first = second
  password : client.readPassword
    ((makeExtraFile files pathToExtraFile info.password pathToExtraFile).getD "") = info.password
  tls : if info.ssl = "ssl" then client.library = .other
    else client.libraryTls = false ∧ client.programTls = false

/-- The password the program finds is that of a file that was already there, or
that of the file that is written. -/
theorem makeExtraFile_self (files : String → Option String) (pathToExtraFile password : String) :
    makeExtraFile files pathToExtraFile password pathToExtraFile =
      some ((files pathToExtraFile).getD ("[client]\npassword = \"" ++ password ++ "\"\n")) := by
  rw [makeExtraFile]
  cases found : files pathToExtraFile with
  | none => simp
  | some content => simp [found]

theorem startsWithDigit_of_parsePort {portOrSocket : String}
    (isPort : (parsePort portOrSocket).isSome = true) : startsWithDigit portOrSocket = true := by
  unfold parsePort at isPort
  split_ifs at isPort with digits
  · cases characters : portOrSocket.toList with
    | nil => exact absurd (String.toList_eq_nil_iff.mp characters) digits.1
    | cons first others =>
        have all := digits.2
        rw [characters, List.all_cons, Bool.and_eq_true] at all
        rw [startsWithDigit, characters]
        exact all.1
  all_goals cases isPort

/-- Both ways use TLS exactly if the string says so. -/
theorem tls_iff (client : MySQLClient) (ssl : String) :
    ((decide (ssl = "ssl") || client.programTls) = (tlsOption client.library ssl).used client ∧
      ((tlsOption client.library ssl).used client = true ↔ ssl = "ssl")) ↔
        if ssl = "ssl" then client.library = .other
        else client.libraryTls = false ∧ client.programTls = false := by
  unfold tlsOption
  split_ifs with asked
  · cases client.library with
    | mysql8 => simp [asked, TlsOption.used]
    | other => simp [asked, TlsOption.used]
  · simp only [asked, decide_false, Bool.false_or, TlsOption.used, iff_false, Bool.not_eq_true]
    constructor
    · rintro ⟨same, noTls⟩
      exact ⟨noTls, same.trans noTls⟩
    · rintro ⟨noLibrary, noProgram⟩
      exact ⟨noProgram.trans noLibrary.symm, noLibrary⟩

section Comparing

variable {client : MySQLClient} {changed : MySQLConnectionInfo} {files : String → Option String}
  {pathToExtraFile path : String} {arguments : ConnectArguments}

theorem withoutDatabase_database (info : MySQLConnectionInfo) (pathToExtraFile path : String) :
    (CommandLine.withoutDatabase info pathToExtraFile path).database = "" :=
  (withHost_rest _ _ _).2

/-- What the program reaches if the database is understood. -/
theorem applyFileAccess_eq (documented : client.Documented)
    (database : isOption changed.database = false) :
    applyFileAccess client files changed pathToExtraFile path =
      ({ CommandLine.withoutDatabase changed pathToExtraFile path with
        database := changed.database } : CommandLine).access client files := by
  rw [applyFileAccess, read_applyFileArguments documented,
    read_database documented database (withoutDatabase_database _ _ _), Option.bind_some]

theorem access_eq_some_iff {line : CommandLine} {access : Access} :
    line.access client files = some access ↔
      parsePort line.port = some access.port ∧ line.host = access.host ∧
        line.protocolSocket = access.protocolSocket ∧ line.socket = access.socket ∧
        line.user = access.user ∧
        client.readPassword ((files line.extraFile).getD "") = access.password ∧
        line.database = access.database ∧ (line.ssl || client.programTls) = access.tls := by
  rw [CommandLine.access, Option.map_eq_some_iff]
  constructor
  · rintro ⟨port, isPort, rfl⟩
    exact ⟨isPort, rfl, rfl, rfl, rfl, rfl, rfl, rfl⟩
  · rintro ⟨isPort, host, protocolSocket, socket, user, password, database, tls⟩
    refine ⟨access.port, isPort, ?_⟩
    rw [host, protocolSocket, socket, user, password, database, tls]

/-- What is left to compare when host, user and database are understood. -/
theorem applyFileAccess_iff (documented : client.Documented) (host : changed.host ≠ "")
    (user : changed.user ≠ "") (database : isOption changed.database = false) :
    applyFileAccess client files changed pathToExtraFile path = some (arguments.access client) ↔
      parsePort (if startsWithDigit changed.portOrSocket = false then "0"
          else changed.portOrSocket) = some arguments.port ∧
        changed.host = arguments.host ∧
        (!startsWithDigit changed.portOrSocket) = arguments.protocolSocket ∧
        (if startsWithDigit changed.portOrSocket = false then
          some (if changed.portOrSocket ≠ "" then changed.portOrSocket else charset)
          else none) = arguments.unixSocket ∧
        changed.user = arguments.user ∧
        client.readPassword ((files pathToExtraFile).getD "") = arguments.password ∧
        changed.database = arguments.database ∧
        (decide (changed.ssl = "ssl") || client.programTls) = arguments.tls.used client := by
  rw [applyFileAccess_eq documented database, access_eq_some_iff]
  simp only [CommandLine.withoutDatabase, withHost_given host user, CommandLine.withPort,
    CommandLine.withSocket, ConnectArguments.access]
  cases startsWithDigit changed.portOrSocket with
  | true => rfl
  | false => rfl

/-- The host and the user are understood if they are given, and the database if
it is no option. -/
theorem understood_of_access (documented : client.Documented)
    (reached : applyFileAccess client files changed pathToExtraFile path =
      some (arguments.access client))
    (host : arguments.host = changed.host) (user : arguments.user = changed.user)
    (database : arguments.database = changed.database) :
    changed.host ≠ "" ∧ changed.user ≠ "" ∧ isOption changed.database = false := by
  have notOption : isOption changed.database = false := by
    by_contra option
    rw [Bool.not_eq_false] at option
    rw [applyFileAccess, read_applyFileArguments documented, Option.bind_eq_some_iff] at reached
    obtain ⟨line, read, same⟩ := reached
    refine read_database_option documented option (withoutDatabase_database _ _ _) read ?_
    exact (access_eq_some_iff.mp same).2.2.2.2.2.2.1.trans database
  rw [applyFileAccess_eq documented notOption, access_eq_some_iff] at reached
  obtain ⟨_, sameHost, _, _, sameUser, _⟩ := reached
  have isHost : (if changed.host ≠ "" then changed.host else "-u" ++ changed.user) =
      changed.host := (withHost_host changed.user changed.portOrSocket).symm.trans
        (sameHost.trans host)
  have givenHost : changed.host ≠ "" := by
    intro missing
    rw [if_neg (not_not.mpr missing), missing] at isHost
    simp at isHost
  refine ⟨givenHost, ?_, notOption⟩
  intro missing
  exact withHost_user_ne givenHost missing changed.portOrSocket
    ((sameUser.trans user).trans missing)

end Comparing

section Calls

variable {client : MySQLClient} {info : MySQLConnectionInfo} {initialized : Nat → Bool}
  {built calls : Nat} {files : String → Option String} {pathToExtraFile path : String}

/-- A host that is no socket is never replaced. -/
theorem before_other {library : ClientLibrary} (notSocket : info.host ≠ ".") (call : Nat) :
    info.before library initialized call = info := by
  induction call with
  | zero => rfl
  | succ call ih => rw [MySQLConnectionInfo.before, ih, call_other notSocket]

/-- What `Open` connects with over TCP. -/
def portArgumentsOf (library : ClientLibrary) (info : MySQLConnectionInfo) (port : Nat) :
    ConnectArguments :=
  ⟨info.host, info.user, info.password, info.database, port, false, none,
    tlsOption library info.ssl⟩

/-- What it connects with through a socket. -/
def socketArgumentsOf (library : ClientLibrary) (info : MySQLConnectionInfo) :
    ConnectArguments :=
  ⟨"localhost", info.user, info.password, info.database, 0, true, some info.portOrSocket,
    tlsOption library info.ssl⟩

theorem nthCall_notTried {library : ClientLibrary} {call : Nat}
    (fails : initialized call = false) :
    info.nthCall library initialized call = .notTried := by
  rw [MySQLConnectionInfo.nthCall, fails, call_notInitialized]

theorem nthCall_port {library : ClientLibrary} (notSocket : info.host ≠ ".") {port call : Nat}
    (isPort : parsePort info.portOrSocket = some port) (passes : initialized call = true) :
    info.nthCall library initialized call = .connects (portArgumentsOf library info port) := by
  rw [MySQLConnectionInfo.nthCall, before_other notSocket, passes]
  simp [MySQLConnectionInfo.call, MySQLConnectionInfo.openWith, notSocket, isPort,
    portArgumentsOf]

theorem nthCall_tried {library : ClientLibrary} {call : Nat} (passes : initialized call = true) :
    info.nthCall library initialized call ≠ .notTried := by
  rw [MySQLConnectionInfo.nthCall, passes, MySQLConnectionInfo.call, if_neg (by decide)]
  split
  · rintro ⟨⟩
  · rintro ⟨⟩

/-- The first call that gets past `mysql_init`. -/
theorem nthCall_socket {library : ClientLibrary} (isSocket : info.host = ".") {call : Nat}
    (first : ∀ earlier < call, initialized earlier = false) (passes : initialized call = true) :
    info.nthCall library initialized call = .connects (socketArgumentsOf library info) := by
  rw [MySQLConnectionInfo.nthCall, before_eq isSocket, if_pos first, passes]
  simp [MySQLConnectionInfo.call, MySQLConnectionInfo.openWith, isSocket, socketArgumentsOf]

/-- A later call uses no socket. -/
theorem nthCall_later {library : ClientLibrary} (isSocket : info.host = ".")
    {earlier call : Nat} (before : earlier < call) (passed : initialized earlier = true)
    {arguments : ConnectArguments}
    (connects : info.nthCall library initialized call = .connects arguments) :
    arguments.protocolSocket = false := by
  have changed : ¬ ∀ other < call, initialized other = false := by
    intro all
    rw [all earlier before] at passed
    cases passed
  rw [MySQLConnectionInfo.nthCall, before_eq isSocket, if_neg changed] at connects
  cases passes : initialized call with
  | false =>
      rw [passes, call_notInitialized] at connects
      cases connects
  | true =>
      rw [passes] at connects
      have other : ("localhost" : String) ≠ "." := by decide
      simp only [MySQLConnectionInfo.call, MySQLConnectionInfo.openWith, if_neg other] at connects
      cases port : parsePort info.portOrSocket with
      | none => simp [port] at connects
      | some number =>
          simp only [port, Option.map_some, Bool.true_eq_false, if_false,
            OpenCall.connects.injEq] at connects
          rw [← connects]

/-- A pool of connections over TCP. -/
theorem agreement_port (documented : client.Documented) (notSocket : info.host ≠ ".")
    {port : Nat} (isPort : parsePort info.portOrSocket = some port)
    (opened : ∃ call < calls, initialized call = true) :
    Agreement client info initialized built calls files pathToExtraFile path ↔
      Consistent client info initialized calls files pathToExtraFile := by
  have digit : startsWithDigit info.portOrSocket = true :=
    startsWithDigit_of_parsePort (by rw [isPort]; rfl)
  have tls := tls_iff client info.ssl
  rw [Agreement, before_other notSocket]
  constructor
  · intro agrees
    obtain ⟨call, inside, passes⟩ := opened
    have agreesNow := agrees call inside
    rw [nthCall_port notSocket isPort passes] at agreesNow
    obtain ⟨reached, usesTls⟩ := agreesNow
    obtain ⟨host, user, database⟩ := understood_of_access documented reached rfl rfl rfl
    rw [applyFileAccess_iff documented host user database] at reached
    obtain ⟨_, _, _, _, _, password, _, sameTls⟩ := reached
    exact ⟨host, user, database, fun isSocket => absurd isSocket notSocket,
      fun isSocket => absurd isSocket notSocket, password, tls.mp ⟨sameTls, usesTls⟩⟩
  · intro consistent call _
    obtain ⟨sameTls, usesTls⟩ := tls.mpr consistent.tls
    cases passes : initialized call with
    | false =>
        rw [nthCall_notTried passes]
        trivial
    | true =>
        rw [nthCall_port notSocket isPort passes]
        refine ⟨?_, usesTls⟩
        rw [applyFileAccess_iff documented consistent.host consistent.user consistent.database]
        exact ⟨by simpa [digit, portArgumentsOf] using isPort, rfl,
          by simp [digit, portArgumentsOf], by simp [digit, portArgumentsOf], rfl,
          consistent.password, rfl, sameTls⟩

/-- What the program reaches after the socket has been lost. -/
theorem applyFileAccess_socket_iff (documented : client.Documented) (user : info.user ≠ "")
    (database : isOption info.database = false) :
    applyFileAccess client files { info with host := "localhost" } pathToExtraFile path =
        some ((socketArgumentsOf client.library info).access client) ↔
      (info.portOrSocket ≠ "" ∧ startsWithDigit info.portOrSocket = false) ∧
        client.readPassword ((files pathToExtraFile).getD "") = info.password ∧
        (decide (info.ssl = "ssl") || client.programTls) =
          (tlsOption client.library info.ssl).used client := by
  have host : "localhost" ≠ "" := by decide
  have zero : parsePort "0" = some 0 := by decide
  rw [@applyFileAccess_iff client { info with host := "localhost" } files pathToExtraFile path
    (socketArgumentsOf client.library info) documented host user database]
  constructor
  · rintro ⟨_, _, protocol, socket, _, password, _, tls⟩
    have notDigit : startsWithDigit info.portOrSocket = false := by
      simpa [socketArgumentsOf] using protocol
    refine ⟨⟨?_, notDigit⟩, password, tls⟩
    intro missing
    rw [if_pos notDigit, if_neg (not_not.mpr missing)] at socket
    exact absurd ((Option.some.inj socket).trans missing) (by decide)
  · rintro ⟨⟨given, notDigit⟩, password, tls⟩
    exact ⟨by simpa [notDigit, socketArgumentsOf] using zero, rfl,
      by simp [notDigit, socketArgumentsOf], by simp [notDigit, given, socketArgumentsOf], rfl,
      password, rfl, tls⟩

/-- A pool of connections through a socket. -/
theorem agreement_socket (documented : client.Documented) (isSocket : info.host = ".")
    (opened : ∃ call < built, initialized call = true) (considered : built ≤ calls) :
    Agreement client info initialized built calls files pathToExtraFile path ↔
      Consistent client info initialized calls files pathToExtraFile := by
  have changed : ¬ ∀ earlier < built, initialized earlier = false := by
    rintro all
    obtain ⟨call, inside, passes⟩ := opened
    rw [all call inside] at passes
    cases passes
  have tls := tls_iff client info.ssl
  rw [Agreement, before_eq isSocket, if_neg changed]
  constructor
  · intro agrees
    let first := Nat.find opened
    obtain ⟨firstInside, firstPasses⟩ := Nat.find_spec opened
    have nonePassed : ∀ earlier < first, initialized earlier = false := by
      intro earlier before
      have notYet := Nat.find_min opened before
      have inside : earlier < built := before.trans firstInside
      simpa [inside] using notYet
    have agreesFirst := agrees first (firstInside.trans_le considered)
    rw [nthCall_socket isSocket nonePassed firstPasses] at agreesFirst
    obtain ⟨reached, usesTls⟩ := agreesFirst
    obtain ⟨_, user, database⟩ := understood_of_access documented reached rfl rfl rfl
    obtain ⟨socket, password, sameTls⟩ :=
      (applyFileAccess_socket_iff documented user database).mp reached
    have isFirst : ∀ call < calls, initialized call = true → call = first := by
      intro call inside passes
      by_contra other
      have later : first < call := by
        refine lt_of_le_of_ne ?_ (Ne.symm other)
        by_contra sooner
        rw [nonePassed call (not_le.mp sooner)] at passes
        cases passes
      have agreesLater := agrees call inside
      cases connects : info.nthCall client.library initialized call with
      | notTried => exact nthCall_tried passes connects
      | invalidPort =>
          rw [connects] at agreesLater
          exact agreesLater
      | connects arguments =>
          have noSocket := nthCall_later isSocket later firstPasses connects
          rw [connects] at agreesLater
          have same := Option.some.inj (reached.symm.trans agreesLater.1)
          have sameProtocol := congrArg Access.protocolSocket same
          rw [ConnectArguments.access, ConnectArguments.access, noSocket] at sameProtocol
          cases sameProtocol
    refine ⟨by simp [isSocket], user, database, fun _ => socket, ?_, password,
      tls.mp ⟨sameTls, usesTls⟩⟩
    intro _ one oneInside another anotherInside onePasses anotherPasses
    rw [isFirst one oneInside onePasses, isFirst another anotherInside anotherPasses]
  · intro consistent call inside
    obtain ⟨sameTls, usesTls⟩ := tls.mpr consistent.tls
    cases passes : initialized call with
    | false =>
        rw [nthCall_notTried passes]
        trivial
    | true =>
        have nonePassed : ∀ earlier < call, initialized earlier = false := by
          intro earlier before
          by_contra passed
          rw [Bool.not_eq_false] at passed
          exact before.ne (consistent.once isSocket earlier (before.trans inside) call inside
            passed passes)
        rw [nthCall_socket isSocket nonePassed passes]
        exact ⟨(applyFileAccess_socket_iff documented consistent.user consistent.database).mpr
          ⟨consistent.socket isSocket, consistent.password, sameTls⟩, usesTls⟩

end Calls

/-- A connection string with five or six fields and a socket or a port. -/
structure WellFormed (infoString : String) : Prop where
  fields : (tokenize infoString ';' true).length = 5 ∨ (tokenize infoString ';' true).length = 6
  portOrSocket : (MySQLConnectionInfo.ofString infoString).host = "." ∨
    (parsePort (MySQLConnectionInfo.ofString infoString).portOrSocket).isSome = true

/-- For every connection string, every client whose `mysql` program reads its options
as they are documented, every content of the files that earlier starts have left,
and all calls of `Open` before and after the updater runs: `Open` and the command
line agree in all of them exactly if the host and the user are not empty, the
database does not look like an option, with a socket only one call gets past
`mysql_init`, a socket is not empty and does not begin with a digit, the file in
place gives the password, and either the string asks for TLS and the library is not
the one for which `Open` disables it, or it does not and neither client uses it
unasked. -/
theorem agreement_iff {infoString : String} (wellFormed : WellFormed infoString)
    {client : MySQLClient} (documented : client.Documented) {initialized : Nat → Bool}
    {built calls : Nat} (opened : ∃ call < built, initialized call = true)
    (considered : built ≤ calls) (files : String → Option String)
    (pathToExtraFile path : String) :
    Agreement client (.ofString infoString) initialized built calls files pathToExtraFile path ↔
      Consistent client (.ofString infoString) initialized calls files pathToExtraFile := by
  have valid := wellFormed.portOrSocket
  generalize MySQLConnectionInfo.ofString infoString = info at valid ⊢
  by_cases isSocket : info.host = "."
  · exact agreement_socket documented isSocket opened considered
  · obtain ⟨port, isPort⟩ := Option.isSome_iff_exists.mp (valid.resolve_left isSocket)
    obtain ⟨call, inside, passes⟩ := opened
    exact agreement_port documented isSocket isPort ⟨call, inside.trans_le considered, passes⟩

def defaultString : String := "127.0.0.1;3306;warhead;warhead;discord"

/-- The first start with the default string, for which both connections of the pool
are opened. -/
theorem agreement_default :
    Agreement (plainClient .mysql8) (.ofString defaultString) (fun _ => true) 2 2
      (fun _ => none) "DB/DiscordConfig.cnf" "base.sql" := by
  have wellFormed : WellFormed defaultString := ⟨.inl (by decide), .inr (by decide)⟩
  refine (agreement_iff wellFormed (documented_plainClient .mysql8) ⟨0, by decide, rfl⟩ le_rfl
    _ _ _).mpr ?_
  exact ⟨by decide, by decide, by decide, by decide, fun socket => absurd socket (by decide),
    by decide, by decide⟩

def sslString : String := "127.0.0.1;3306;warhead;warhead;discord;ssl"

/-- A file with another password is kept, `Open` disables the TLS that the command
line requires, and the second connection of a pool finds no port in the path of the
socket. -/
theorem disagreement :
    (∀ library, ¬ Agreement (plainClient library) (.ofString defaultString) (fun _ => true) 2 2
      (fun _ => some "[client]\npassword = \"changed\"\n") "DB/DiscordConfig.cnf" "base.sql") ∧
    ¬ Agreement (plainClient .mysql8) (.ofString sslString) (fun _ => true) 2 2
      (fun _ => none) "DB/DiscordConfig.cnf" "base.sql" ∧
    ∀ library, ¬ Agreement (plainClient library) (.ofString socketString) (fun _ => true) 2 2
      (fun _ => none) "DB/DiscordConfig.cnf" "base.sql" := by
  refine ⟨?_, ?_, ?_⟩
  · intro library agreement
    have consistent := (agreement_port (documented_plainClient library) (by decide)
      (show _ = some 3306 by decide) ⟨0, by decide, rfl⟩).mp agreement
    have password := consistent.password
    cases library <;> exact absurd password (by decide)
  · intro agreement
    have consistent := (agreement_port (documented_plainClient .mysql8) (by decide)
      (show _ = some 3306 by decide) ⟨0, by decide, rfl⟩).mp agreement
    exact absurd consistent.tls (by decide)
  · intro library agreement
    have consistent := (agreement_socket (documented_plainClient library) (by decide)
      ⟨0, by decide, rfl⟩ le_rfl).mp agreement
    exact absurd (consistent.once (by decide) 0 (by decide) 1 (by decide) rfl rfl) (by decide)

end MySQL

end WarheadBot
