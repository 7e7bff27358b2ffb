import WarheadBot.MySQLConnectionInfo

/-!
# The command line of the updater

`DBUpdater::ApplyFile` runs the `mysql` program on a file.  It builds the
arguments from the info of the pool, after `Open` has changed it, and the
program reads the password from a file that `MakeExtraFile` writes unless it is
already there.

The `mysql` program is not part of the repository: how it reads its arguments is
a parameter, of which only the documented meaning of the options that the updater
uses is assumed.  How it reads an option file, and whether a connection without an
option for it uses TLS, are parameters as well.
-/

namespace WarheadBot

namespace MySQL

/-- What the `mysql` program has been told. -/
structure CommandLine where
  host : String
  user : String
  port : String
  socket : Option String
  protocolSocket : Bool
  ssl : Bool
  database : String
  statement : String
  extraFile : String
  deriving DecidableEq, Repr

def CommandLine.start : CommandLine := ⟨"", "", "0", none, false, false, "", "", ""⟩

/-- What is not part of the repository: the client library, what the `mysql`
program makes of further arguments unless it refuses them, the password that it
finds in an option file, and whether the library and the program use TLS if they
are not told. -/
structure MySQLClient where
  library : ClientLibrary
  readArguments : List String → CommandLine → Option CommandLine
  readPassword : String → String
  libraryTls : Bool
  programTls : Bool

/-- `MakeExtraFile`, as the contents of the files afterwards. -/
def makeExtraFile (files : String → Option String) (pathToExtraFile password : String) :
    String → Option String :=
  if (files pathToExtraFile).isSome then files
  else Function.update files pathToExtraFile
    (some ("[client]\npassword = \"" ++ password ++ "\"\n"))

def portArguments (portOrSocket : String) : List String :=
  -- A string ends with a zero.
  if (portOrSocket.toList.headD '\x00').isDigit = false then
    ["-P0", "--protocol=SOCKET", "-S" ++ portOrSocket]
  else
    ["-P" ++ portOrSocket]

def sslArguments (library : ClientLibrary) (ssl : String) : List String :=
  if ssl = "ssl" then
    match library with
    | .mysql8 => ["--ssl-mode=REQUIRED"]
    | .other => ["--ssl"]
  else
    []

/-- The arguments of `ApplyFile`. -/
def applyFileArguments (library : ClientLibrary) (info : MySQLConnectionInfo)
    (pathToExtraFile path : String) : List String :=
  ["--defaults-extra-file=" ++ pathToExtraFile, "-h" ++ info.host, "-u" ++ info.user] ++
    portArguments info.portOrSocket ++
    ["--default-character-set=utf8mb4", "--max-allowed-packet=1GB"] ++
    sslArguments library info.ssl ++
    ["-e", "BEGIN; SOURCE " ++ path ++ "; COMMIT;"] ++
    (if info.database = "" then [] else [info.database])

/-- The options of one letter that the updater uses. -/
inductive LetterOption
  | host | user | port | socket | execute
  deriving DecidableEq, Repr

def LetterOption.flag : LetterOption → String
  | host => "-h"
  | user => "-u"
  | port => "-P"
  | socket => "-S"
  | execute => "-e"

def CommandLine.set (line : CommandLine) (value : String) : LetterOption → CommandLine
  | .host => { line with host := value }
  | .user => { line with user := value }
  | .port => { line with port := value }
  | .socket => { line with socket := some value }
  | .execute => { line with statement := value }

/-- An argument that begins an option. -/
def isOption (argument : String) : Bool :=
  match argument.toList with
  | '-' :: _ :: _ => true
  | _ => false

/-- What the `mysql` program documents about the options that the updater uses. -/
structure MySQLClient.Documented (client : MySQLClient) : Prop where
  nothing : ∀ line, client.readArguments [] line = some line
  -- A value may be attached to a letter; if nothing is, the next argument is the value.
  attached : ∀ option value rest line, value ≠ "" →
    client.readArguments ((option.flag ++ value) :: rest) line =
      client.readArguments rest (line.set value option)
  separate : ∀ (option : LetterOption) value rest line,
    client.readArguments (option.flag :: value :: rest) line =
      client.readArguments rest (line.set value option)
  -- This option has to be the first one.
  extraFile : ∀ path rest,
    client.readArguments (("--defaults-extra-file=" ++ path) :: rest) .start =
      client.readArguments rest { CommandLine.start with extraFile := path }
  protocol : ∀ rest line, client.readArguments ("--protocol=SOCKET" :: rest) line =
    client.readArguments rest { line with protocolSocket := true }
  tls : ∀ rest line, client.readArguments (sslArguments client.library "ssl" ++ rest) line =
    client.readArguments rest { line with ssl := true }
  charset : ∀ rest line,
    client.readArguments ("--default-character-set=utf8mb4" :: rest) line =
      client.readArguments rest line
  packet : ∀ rest line, client.readArguments ("--max-allowed-packet=1GB" :: rest) line =
    client.readArguments rest line
  -- The first argument that is no option is the database.
  database : ∀ argument rest (line : CommandLine), isOption argument = false →
    line.database = "" → client.readArguments (argument :: rest) line =
      client.readArguments rest { line with database := argument }
  -- An option as a whole is never the name of the database.
  option : ∀ argument (line result : CommandLine), isOption argument = true →
    line.database = "" → client.readArguments [argument] line = some result →
      result.database ≠ argument

/-- How a database is reached. -/
structure Access where
  host : String
  port : Nat
  protocolSocket : Bool
  socket : Option String
  user : String
  password : String
  database : String
  tls : Bool
  deriving DecidableEq, Repr

def TlsOption.used (client : MySQLClient) : TlsOption → Bool
  | unset => client.libraryTls
  | disabled => false
  | enforced => true

def ConnectArguments.access (client : MySQLClient) (arguments : ConnectArguments) : Access :=
  ⟨arguments.host, arguments.port, arguments.protocolSocket, arguments.unixSocket,
    arguments.user, arguments.password, arguments.database, arguments.tls.used client⟩

/-- What the program connects to, if it has been told a port. -/
def CommandLine.access (client : MySQLClient) (files : String → Option String)
    (line : CommandLine) : Option Access :=
  (parsePort line.port).map fun port =>
    ⟨line.host, port, line.protocolSocket, line.socket, line.user,
      client.readPassword ((files line.extraFile).getD ""), line.database,
      line.ssl || client.programTls⟩

/-- What `ApplyFile` makes the program connect to. -/
def applyFileAccess (client : MySQLClient) (files : String → Option String)
    (info : MySQLConnectionInfo) (pathToExtraFile path : String) : Option Access :=
  (client.readArguments (applyFileArguments client.library info pathToExtraFile path)
    .start).bind (CommandLine.access client files)

section Reading

variable {client : MySQLClient} {line : CommandLine} {rest : List String}

/-- The argument behind the port. -/
def charset : String := "--default-character-set=utf8mb4"

/-- The socket, or the next argument if there is none. -/
def CommandLine.withSocket (line : CommandLine) (portOrSocket : String) : CommandLine :=
  { line with
    protocolSocket := true
    socket := some (if portOrSocket ≠ "" then portOrSocket else charset) }

theorem read_socket (documented : client.Documented) (portOrSocket : String) :
    client.readArguments ("--protocol=SOCKET" :: ("-S" ++ portOrSocket) :: charset :: rest) line =
      client.readArguments rest (line.withSocket portOrSocket) := by
  rw [documented.protocol, CommandLine.withSocket]
  by_cases given : portOrSocket ≠ ""
  · have read := documented.attached .socket portOrSocket (charset :: rest)
      { line with protocolSocket := true } given
    rw [if_pos given]
    exact read.trans (documented.charset rest _)
  · have alone : "-S" ++ portOrSocket = LetterOption.socket.flag := by
      rw [not_not.mp given]
      rfl
    rw [alone, documented.separate, if_neg given]
    rfl

def startsWithDigit (portOrSocket : String) : Bool :=
  (portOrSocket.toList.headD '\x00').isDigit

theorem ne_empty_of_startsWithDigit {portOrSocket : String}
    (digit : startsWithDigit portOrSocket = true) : portOrSocket ≠ "" := by
  rintro rfl
  revert digit
  decide

theorem portArguments_eq (portOrSocket : String) :
    portArguments portOrSocket =
      if startsWithDigit portOrSocket = false then
        ["-P0", "--protocol=SOCKET", "-S" ++ portOrSocket]
      else ["-P" ++ portOrSocket] :=
  rfl

def CommandLine.withPort (line : CommandLine) (portOrSocket : String) : CommandLine :=
  if startsWithDigit portOrSocket = false then
    { line with port := "0" }.withSocket portOrSocket
  else
    { line with port := portOrSocket }

theorem read_port (documented : client.Documented) (portOrSocket : String) :
    client.readArguments (portArguments portOrSocket ++ charset :: rest) line =
      client.readArguments rest (line.withPort portOrSocket) := by
  rw [portArguments_eq, CommandLine.withPort]
  split_ifs with notDigit
  · have zero := documented.attached .port "0"
      ("--protocol=SOCKET" :: ("-S" ++ portOrSocket) :: charset :: rest) line (by decide)
    exact zero.trans (read_socket documented portOrSocket)
  · have digit : startsWithDigit portOrSocket = true := by simpa using notDigit
    have read := documented.attached .port portOrSocket (charset :: rest) line
      (ne_empty_of_startsWithDigit digit)
    exact read.trans (documented.charset rest _)

/-- Without a user the argument of the port is taken for it. -/
def CommandLine.withUser (line : CommandLine) (user portOrSocket : String) : CommandLine :=
  if user ≠ "" then { line with user := user }.withPort portOrSocket
  else if startsWithDigit portOrSocket = false then
    { line with user := "-P0" }.withSocket portOrSocket
  else
    { line with user := "-P" ++ portOrSocket }

theorem read_user (documented : client.Documented) (user portOrSocket : String) :
    client.readArguments (("-u" ++ user) :: (portArguments portOrSocket ++ charset :: rest))
        line = client.readArguments rest (line.withUser user portOrSocket) := by
  rw [CommandLine.withUser]
  by_cases given : user ≠ ""
  · have read := documented.attached .user user (portArguments portOrSocket ++ charset :: rest)
      line given
    rw [if_pos given]
    exact read.trans (read_port documented portOrSocket)
  · have alone : "-u" ++ user = LetterOption.user.flag := by
      rw [not_not.mp given]
      rfl
    rw [if_neg given, portArguments_eq, alone]
    split_ifs with notDigit
    · rw [List.cons_append, List.cons_append, List.singleton_append, documented.separate]
      exact read_socket documented portOrSocket
    · rw [List.singleton_append, documented.separate]
      exact documented.charset rest _

/-- Without a host the argument of the user is taken for it. -/
def CommandLine.withHost (line : CommandLine) (host user portOrSocket : String) : CommandLine :=
  if host ≠ "" then { line with host := host }.withUser user portOrSocket
  else { line with host := "-u" ++ user }.withPort portOrSocket

theorem read_host (documented : client.Documented) (host user portOrSocket : String) :
    client.readArguments (("-h" ++ host) :: ("-u" ++ user) ::
        (portArguments portOrSocket ++ charset :: rest)) line =
      client.readArguments rest (line.withHost host user portOrSocket) := by
  rw [CommandLine.withHost]
  by_cases given : host ≠ ""
  · have read := documented.attached .host host
      (("-u" ++ user) :: (portArguments portOrSocket ++ charset :: rest)) line given
    rw [if_pos given]
    exact read.trans (read_user documented user portOrSocket)
  · have alone : "-h" ++ host = LetterOption.host.flag := by
      rw [not_not.mp given]
      rfl
    rw [if_neg given, alone, documented.separate]
    exact read_port documented portOrSocket

theorem read_ssl (documented : client.Documented) (ssl : String) :
    client.readArguments (sslArguments client.library ssl ++ rest) line =
      client.readArguments rest { line with ssl := line.ssl || decide (ssl = "ssl") } := by
  by_cases asked : ssl = "ssl"
  · rw [asked, documented.tls]
    simp
  · simp [sslArguments, asked]

/-- The arguments up to the database. -/
def CommandLine.withoutDatabase (info : MySQLConnectionInfo) (pathToExtraFile path : String) :
    CommandLine :=
  { ({ CommandLine.start with extraFile := pathToExtraFile }.withHost info.host info.user
      info.portOrSocket) with
    ssl := decide (info.ssl = "ssl")
    statement := "BEGIN; SOURCE " ++ path ++ "; COMMIT;" }

def databaseArguments (database : String) : List String :=
  if database = "" then [] else [database]

/-- Whatever host, user and port are taken for, the rest of the line stays. -/
theorem withHost_rest (host user portOrSocket : String) :
    (line.withHost host user portOrSocket).ssl = line.ssl ∧
      (line.withHost host user portOrSocket).database = line.database := by
  unfold CommandLine.withHost CommandLine.withUser CommandLine.withPort CommandLine.withSocket
  split_ifs <;> exact ⟨rfl, rfl⟩

theorem read_applyFileArguments (documented : client.Documented) (info : MySQLConnectionInfo)
    (pathToExtraFile path : String) :
    client.readArguments (applyFileArguments client.library info pathToExtraFile path) .start =
      client.readArguments (databaseArguments info.database)
        (.withoutDatabase info pathToExtraFile path) := by
  have split : applyFileArguments client.library info pathToExtraFile path =
      ("--defaults-extra-file=" ++ pathToExtraFile) :: ("-h" ++ info.host) ::
        ("-u" ++ info.user) :: (portArguments info.portOrSocket ++ charset ::
          "--max-allowed-packet=1GB" :: (sslArguments client.library info.ssl ++
            LetterOption.execute.flag :: ("BEGIN; SOURCE " ++ path ++ "; COMMIT;") ::
              databaseArguments info.database)) := by
    simp only [applyFileArguments, charset, databaseArguments, LetterOption.flag,
      List.cons_append, List.nil_append, List.append_assoc]
  rw [split, documented.extraFile, read_host documented, documented.packet,
    read_ssl documented, documented.separate, (withHost_rest _ _ _).1]
  rfl

theorem read_database (documented : client.Documented) {database : String}
    (notOption : isOption database = false) (unset : line.database = "") :
    client.readArguments (databaseArguments database) line =
      some { line with database := database } := by
  rw [databaseArguments]
  split_ifs with isEmpty
  · rw [isEmpty, ← unset, documented.nothing]
  · rw [documented.database database [] line notOption unset, documented.nothing]

/-- A database that looks like an option is never the database. -/
theorem read_database_option (documented : client.Documented) {database : String}
    (option : isOption database = true) (unset : line.database = "") {result : CommandLine}
    (read : client.readArguments (databaseArguments database) line = some result) :
    result.database ≠ database := by
  have nonempty : database ≠ "" := by
    rintro rfl
    revert option
    decide
  rw [databaseArguments, if_neg nonempty] at read
  exact documented.option database line result option unset read

theorem withHost_host {host : String} (user portOrSocket : String) :
    (line.withHost host user portOrSocket).host = if host ≠ "" then host else "-u" ++ user := by
  unfold CommandLine.withHost CommandLine.withUser CommandLine.withPort CommandLine.withSocket
  split_ifs <;> rfl

theorem withHost_user_ne {host user : String} (given : host ≠ "") (missing : user = "")
    (portOrSocket : String) : (line.withHost host user portOrSocket).user ≠ "" := by
  unfold CommandLine.withHost CommandLine.withUser CommandLine.withSocket
  rw [if_pos given, if_neg (not_not.mpr missing)]
  split_ifs <;> simp

theorem withHost_given {host user : String} (givenHost : host ≠ "") (givenUser : user ≠ "")
    (portOrSocket : String) :
    line.withHost host user portOrSocket =
      { line with host := host, user := user }.withPort portOrSocket := by
  rw [CommandLine.withHost, if_pos givenHost, CommandLine.withUser, if_pos givenUser]

end Reading

section Example

/-- A program that knows no other options. -/
def CommandLine.letterOption (line : CommandLine) (letter : Char) (value : String) :
    Option CommandLine :=
  ([LetterOption.host, .user, .port, .socket, .execute].find? fun option =>
    option.flag.toList = ['-', letter]).map (line.set value)

def defaultsExtraFile : List Char := "defaults-extra-file=".toList

def CommandLine.longOption (line : CommandLine) (name : List Char) : Option CommandLine :=
  if name = "protocol=SOCKET".toList then some { line with protocolSocket := true }
  else if name = "ssl".toList ∨ name = "ssl-mode=REQUIRED".toList then
    some { line with ssl := true }
  else if name = "default-character-set=utf8mb4".toList ∨
      name = "max-allowed-packet=1GB".toList then
    some line
  else if defaultsExtraFile.isPrefixOf name then
    some { line with extraFile := String.ofList (name.drop defaultsExtraFile.length) }
  else none

def CommandLine.read : List String → CommandLine → Option CommandLine
  | [], line => some line
  | argument :: rest, line =>
      match argument.toList with
      | '-' :: '-' :: name => (line.longOption name).bind (read rest)
      | '-' :: letter :: value =>
          if value ≠ [] then (line.letterOption letter (String.ofList value)).bind (read rest)
          else
            match rest with
            | [] => none
            | next :: others => (line.letterOption letter next).bind (read others)
      | _ => if line.database = "" then read rest { line with database := argument } else none

/-- A client that reads its options as they are documented, finds the password
between the quotation marks and uses no TLS unasked. -/
def plainClient (library : ClientLibrary) : MySQLClient where
  library := library
  readArguments := CommandLine.read
  readPassword := fun content => (tokenize content '"' true).getD 1 ""
  libraryTls := false
  programTls := false

variable {line : CommandLine} {argument next : String} {rest : List String}

theorem letterOption_letter (option : LetterOption) (value : String) :
    ∃ letter, letter ≠ '-' ∧ option.flag.toList = ['-', letter] ∧
      line.letterOption letter value = some (line.set value option) := by
  cases option with
  | host => exact ⟨'h', by decide, rfl, rfl⟩
  | user => exact ⟨'u', by decide, rfl, rfl⟩
  | port => exact ⟨'P', by decide, rfl, rfl⟩
  | socket => exact ⟨'S', by decide, rfl, rfl⟩
  | execute => exact ⟨'e', by decide, rfl, rfl⟩

theorem read_long {name : List Char} (shape : argument.toList = '-' :: '-' :: name) :
    CommandLine.read (argument :: rest) line =
      (line.longOption name).bind (CommandLine.read rest) := by
  rw [CommandLine.read, shape]
  rfl

/-- No other option begins like the one for the extra file. -/
theorem longOption_extraFile (path : String) :
    line.longOption (defaultsExtraFile ++ path.toList) =
      some { line with extraFile := path } := by
  have differs : ∀ other : List Char, other.take 5 ≠ "defau".toList →
      defaultsExtraFile ++ path.toList ≠ other := by
    rintro other differ rfl
    rw [List.take_append_of_le_length (by decide)] at differ
    exact differ (by decide)
  have notCharset : defaultsExtraFile ++ path.toList ≠ "default-character-set=utf8mb4".toList := by
    intro same
    have shorter := congrArg (List.take 8) same
    rw [List.take_append_of_le_length (by decide)] at shorter
    exact absurd shorter (by decide)
  rw [CommandLine.longOption, if_neg (differs _ (by decide)),
    if_neg (not_or.mpr ⟨differs _ (by decide), differs _ (by decide)⟩),
    if_neg (not_or.mpr ⟨notCharset, differs _ (by decide)⟩),
    if_pos (List.isPrefixOf_iff_prefix.mpr (List.prefix_append _ _)), List.drop_left,
    String.ofList_toList]

theorem longOption_database {name : List Char} {result : CommandLine}
    (known : line.longOption name = some result) : result.database = line.database := by
  unfold CommandLine.longOption at known
  split_ifs at known <;> cases known <;> rfl

theorem letterOption_database {letter : Char} {value : String} {result : CommandLine}
    (known : line.letterOption letter value = some result) : result.database = line.database := by
  obtain ⟨option, _, rfl⟩ := Option.map_eq_some_iff.mp known
  cases option <;> rfl

theorem read_option {result : CommandLine} (option : isOption argument = true)
    (read : CommandLine.read [argument] line = some result) :
    result.database = line.database := by
  unfold isOption at option
  split at option
  · rename_i letter value shape
    by_cases isLong : letter = '-'
    · subst isLong
      rw [read_long shape] at read
      obtain ⟨known, isKnown, ends⟩ := Option.bind_eq_some_iff.mp read
      cases ends
      exact longOption_database isKnown
    · rw [CommandLine.read, shape] at read
      by_cases attached : value = []
      · subst attached
        simp at read
      · simp only [ne_eq, attached, not_false_eq_true, if_true] at read
        obtain ⟨known, isKnown, ends⟩ := Option.bind_eq_some_iff.mp read
        cases ends
        exact letterOption_database isKnown
  · cases option

theorem documented_plainClient (library : ClientLibrary) : (plainClient library).Documented where
  nothing line := rfl
  attached option value rest line given := by
    obtain ⟨letter, notDash, flag, known⟩ := @letterOption_letter line option value
    have nonempty : value.toList ≠ [] := by simpa using given
    have shape : (option.flag ++ value).toList = '-' :: letter :: value.toList := by
      rw [String.toList_append, flag]
      rfl
    change CommandLine.read _ _ = CommandLine.read _ _
    rw [CommandLine.read, shape]
    simp [nonempty, known]
  separate option value rest line := by
    obtain ⟨letter, notDash, flag, known⟩ := @letterOption_letter line option value
    change CommandLine.read _ _ = CommandLine.read _ _
    rw [CommandLine.read, flag]
    simp [known]
  extraFile path rest := by
    have shape : ("--defaults-extra-file=" ++ path).toList =
        '-' :: '-' :: (defaultsExtraFile ++ path.toList) := by
      rw [String.toList_append]
      rfl
    exact (read_long shape).trans (by rw [longOption_extraFile]; rfl)
  protocol rest line := rfl
  tls rest line := by cases library <;> rfl
  charset rest line := rfl
  packet rest line := rfl
  database argument rest line notOption unset := by
    change CommandLine.read _ _ = CommandLine.read _ _
    unfold isOption at notOption
    rw [CommandLine.read]
    split at notOption
    · cases notOption
    · rename_i other
      split
      · rename_i name shape
        exact absurd shape (other _ _)
      · rename_i name value shape
        exact absurd shape (other _ _)
      · exact if_pos unset
  option argument line result option unset read := by
    rw [read_option option read, unset]
    rintro rfl
    exact absurd option (by decide)

end Example

end MySQL

end WarheadBot
