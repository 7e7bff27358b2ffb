import WarheadBot.MySQLConnection

/-!
# Connection strings

All connections of a pool share one `MySQLConnectionInfo`, which is read from a
string of the configuration.  `Open` takes the arguments of `mysql_real_connect`
from it, and writes to it: a host `.` stands for a socket, and the first `Open`
that gets past `mysql_init` replaces it.
-/

namespace WarheadBot

namespace MySQL

/-- `Warhead::Tokenize`. -/
def tokenize (text : String) (separator : Char) (keepEmpty : Bool) : List String :=
  ((text.toList.splitOn separator).map String.ofList).filter fun token =>
    keepEmpty || token ≠ ""

structure MySQLConnectionInfo where
  user : String
  password : String
  database : String
  host : String
  portOrSocket : String
  ssl : String
  deriving DecidableEq, Repr

def MySQLConnectionInfo.empty : MySQLConnectionInfo := ⟨"", "", "", "", "", ""⟩

/-- The constructor; any other number of fields leaves the object empty. -/
def MySQLConnectionInfo.ofString (infoString : String) : MySQLConnectionInfo :=
  match tokenize infoString ';' true with
  | [host, portOrSocket, user, password, database] =>
      ⟨user, password, database, host, portOrSocket, ""⟩
  | [host, portOrSocket, user, password, database, ssl] =>
      ⟨user, password, database, host, portOrSocket, ssl⟩
  | _ => .empty

/-- Which client library the program is built with. -/
inductive ClientLibrary
  -- `!defined(MARIADB_VERSION_ID) && MYSQL_VERSION_ID >= 80000`
  | mysql8
  | other
  deriving DecidableEq, Repr

/-- The options of a connection that concern TLS. -/
inductive TlsOption
  | unset
  -- `MYSQL_OPT_SSL_MODE` with `SSL_MODE_DISABLED`
  | disabled
  -- `MYSQL_OPT_SSL_ENFORCE`
  | enforced
  deriving DecidableEq, Repr

/-- The options and arguments of `mysql_real_connect`. -/
structure ConnectArguments where
  host : String
  user : String
  password : String
  database : String
  port : Nat
  -- `MYSQL_OPT_PROTOCOL` with `MYSQL_PROTOCOL_SOCKET`
  protocolSocket : Bool
  unixSocket : Option String
  tls : TlsOption
  deriving DecidableEq, Repr

def tlsOption (library : ClientLibrary) (ssl : String) : TlsOption :=
  if ssl = "ssl" then
    match library with
    | .mysql8 => .disabled
    | .other => .enforced
  else
    .unset

/-- What `Open` does after `mysql_init`: the changed info and the arguments it
connects with, unless the port is read from an empty result. -/
def MySQLConnectionInfo.openWith (library : ClientLibrary) (info : MySQLConnectionInfo) :
    Option (MySQLConnectionInfo × ConnectArguments) :=
  if info.host = "." then
    some ({ info with host := "localhost" },
      ⟨"localhost", info.user, info.password, info.database, 0, true, some info.portOrSocket,
        tlsOption library info.ssl⟩)
  else
    (parsePort info.portOrSocket).map fun port =>
      (info, ⟨info.host, info.user, info.password, info.database, port, false, none,
        tlsOption library info.ssl⟩)

def MySQLConnectionInfo.toConnectionInfo (info : MySQLConnectionInfo) : ConnectionInfo :=
  ⟨info.host, info.portOrSocket⟩

/-- The connections of the pool see of the info what `Open` does to it. -/
theorem openWith_resolve (library : ClientLibrary) (info : MySQLConnectionInfo) :
    (info.openWith library).map (fun result => result.1.toConnectionInfo) =
      info.toConnectionInfo.resolve := by
  unfold MySQLConnectionInfo.openWith ConnectionInfo.resolve
  by_cases socket : info.host = "."
  · simp [socket, MySQLConnectionInfo.toConnectionInfo]
  · simp [socket, MySQLConnectionInfo.toConnectionInfo, Function.comp_def]

/-- What one call of `Open` does about its connection. -/
inductive OpenCall
  -- `mysql_init` fails.
  | notTried
  | invalidPort
  | connects (arguments : ConnectArguments)
  deriving DecidableEq, Repr

/-- One call of `Open` on the shared info; after a port that could not be read
nothing is defined, and the info is kept. -/
def MySQLConnectionInfo.call (library : ClientLibrary) (info : MySQLConnectionInfo)
    (initialized : Bool) : OpenCall × MySQLConnectionInfo :=
  if initialized = false then (.notTried, info)
  else
    match info.openWith library with
    | none => (.invalidPort, info)
    | some (changed, arguments) => (.connects arguments, changed)

/-- The info before the call with a number; the calls are those of any
connections, in the order in which they are made. -/
def MySQLConnectionInfo.before (library : ClientLibrary) (info : MySQLConnectionInfo)
    (initialized : Nat → Bool) : Nat → MySQLConnectionInfo
  | 0 => info
  | call + 1 => ((info.before library initialized call).call library (initialized call)).2

def MySQLConnectionInfo.nthCall (library : ClientLibrary) (info : MySQLConnectionInfo)
    (initialized : Nat → Bool) (call : Nat) : OpenCall :=
  ((info.before library initialized call).call library (initialized call)).1

/-- The call connects through the socket, if it tries to connect at all, and
reads no port. -/
def OpenCall.ThroughSocket (socket : String) : OpenCall → Prop
  | notTried => True
  | invalidPort => False
  | connects arguments => arguments.protocolSocket = true ∧ arguments.unixSocket = some socket

variable {library : ClientLibrary} {info : MySQLConnectionInfo} {initialized : Nat → Bool}

theorem call_notInitialized (library : ClientLibrary) (info : MySQLConnectionInfo) :
    info.call library false = (.notTried, info) :=
  rfl

/-- A host that is not a socket stays as it is. -/
theorem call_other (notSocket : info.host ≠ ".") (passes : Bool) :
    (info.call library passes).2 = info := by
  cases passes with
  | false => rfl
  | true =>
      simp only [MySQLConnectionInfo.call, MySQLConnectionInfo.openWith, if_neg notSocket]
      cases parsePort info.portOrSocket with
      | none => rfl
      | some port => rfl

/-- The info says `.` until a call gets past `mysql_init`, and `localhost` from
then on. -/
theorem before_eq (socket : info.host = ".") (call : Nat) :
    info.before library initialized call =
      if ∀ earlier < call, initialized earlier = false then info
      else { info with host := "localhost" } := by
  induction call with
  | zero => simp [MySQLConnectionInfo.before]
  | succ call ih =>
      rw [MySQLConnectionInfo.before, ih]
      by_cases untouched : ∀ earlier < call, initialized earlier = false
      · rw [if_pos untouched]
        cases passes : initialized call with
        | false =>
            have still : ∀ earlier < call + 1, initialized earlier = false := by
              intro earlier before
              rcases Nat.lt_succ_iff_lt_or_eq.mp before with sooner | rfl
              · exact untouched earlier sooner
              · exact passes
            rw [if_pos still, call_notInitialized]
        | true =>
            have changed : ¬ ∀ earlier < call + 1, initialized earlier = false := by
              intro all
              rw [all call (Nat.lt_succ_self call)] at passes
              cases passes
            rw [if_neg changed]
            simp [MySQLConnectionInfo.call, MySQLConnectionInfo.openWith, socket]
      · have changed : ¬ ∀ earlier < call + 1, initialized earlier = false := fun all =>
          untouched fun earlier before => all earlier (Nat.lt_succ_of_lt before)
        rw [if_neg untouched, if_neg changed]
        exact call_other (by simp) _

/-- For every connection string that names a socket, every build and every
number of a call of `Open` on the shared info: the call connects through the
socket and reads no missing port, exactly if it fails in `mysql_init` or no
earlier call got past it. -/
theorem nthCall_throughSocket_iff {infoString socket user password database : String}
    (fields : tokenize infoString ';' true = [".", socket, user, password, database])
    (library : ClientLibrary) (initialized : Nat → Bool) (call : Nat) :
    ((MySQLConnectionInfo.ofString infoString).nthCall library initialized call).ThroughSocket
        socket ↔
      initialized call = false ∨ ∀ earlier < call, initialized earlier = false := by
  have parsed : MySQLConnectionInfo.ofString infoString =
      ⟨user, password, database, ".", socket, ""⟩ := by
    rw [MySQLConnectionInfo.ofString, fields]
  rw [parsed, MySQLConnectionInfo.nthCall, before_eq rfl]
  cases passes : initialized call with
  | false => simp [MySQLConnectionInfo.call, OpenCall.ThroughSocket]
  | true =>
      split_ifs with untouched
      · refine iff_of_true ?_ (.inr untouched)
        simp [MySQLConnectionInfo.call, MySQLConnectionInfo.openWith, OpenCall.ThroughSocket]
      · refine iff_of_false ?_ (by simp [untouched])
        cases port : parsePort socket with
        | none =>
            simp [MySQLConnectionInfo.call, MySQLConnectionInfo.openWith, OpenCall.ThroughSocket,
              port]
        | some number =>
            simp [MySQLConnectionInfo.call, MySQLConnectionInfo.openWith, OpenCall.ThroughSocket,
              port]

def socketString : String := ".;/run/mysqld/mysqld.sock;warhead;warhead;discord"

/-- The asynchronous connection is the first. -/
theorem firstCall_throughSocket :
    ((MySQLConnectionInfo.ofString socketString).nthCall .mysql8 (fun _ => true) 0).ThroughSocket
      "/run/mysqld/mysqld.sock" :=
  (@nthCall_throughSocket_iff socketString "/run/mysqld/mysqld.sock" "warhead" "warhead" "discord"
    (by decide) .mysql8 (fun _ => true) 0).mpr (.inr (by simp))

/-- The synchronous connection of the same pool reads a port from the path of
the socket. -/
theorem secondCall_invalidPort :
    (MySQLConnectionInfo.ofString socketString).nthCall .mysql8 (fun _ => true) 1 = .invalidPort ∧
      ¬ ((MySQLConnectionInfo.ofString socketString).nthCall .mysql8 (fun _ => true)
        1).ThroughSocket "/run/mysqld/mysqld.sock" := by
  have second : (MySQLConnectionInfo.ofString socketString).nthCall .mysql8 (fun _ => true) 1 =
      .invalidPort := by decide
  rw [second]
  exact ⟨rfl, id⟩

end MySQL

end WarheadBot
