import RuleLabels.DatabaseUrl
import RuleLabels.Value.Shown

/-!
# Engines of databases

What it takes to use the database of an address: a driver that is there, and options that make sense to
it. The only driver that is there keeps databases in files or in memory.
-/

namespace RuleLabels.DatabaseUrl

/-- Why an address cannot be used. -/
inductive Refusal where
  | notAnAddress (f : Fault)
  | unknownPlugin (name : String)
  | unknownDriver (name : String)
  | nestedDriver
  | missingModule (name : String)
  | notLocal (url : String)
  | notASwitch (s : String)
  | notAFloat (s : String)
  | notAnInteger (s : String) (f : IntegerFault)
  | repeatedFloat
  | repeatedInteger
  | noName

/-- The wording of a refusal. -/
def Refusal.text : Refusal → String
  | notAnAddress f => f.text
  | unknownPlugin name => s!"Can't load plugin: sqlalchemy.plugins:{name}"
  | unknownDriver name => s!"Can't load plugin: sqlalchemy.dialects:{name}"
  | nestedDriver => "too many values to unpack (expected 2)"
  | missingModule name => s!"No module named '{name}'"
  | notLocal url =>
    s!"Invalid SQLite URL: {url}\nValid SQLite URL forms are:\n sqlite:///:memory: (or, sqlite://)\n" ++
      " sqlite:///relative/path/to/file.db\n sqlite:////absolute/path/to/file.db"
  | notASwitch s => s!"String is not true/false: {Text.quoted s}"
  | notAFloat s => s!"could not convert string to float: {Text.quoted s}"
  | notAnInteger s f => f.text 10 s
  | repeatedFloat => "float() argument must be a string or a real number, not 'tuple'"
  | repeatedInteger =>
    "int() argument must be a string, a bytes-like object or a real number, not 'tuple'"
  | noName => "unsupported operand type(s) for +=: 'NoneType' and 'str'"

/-! ## Drivers -/

/-- The known drivers by their kinds of databases, each with the module that it lacks. -/
def drivers : List (String × List (String × Option String)) := [
  ("sqlite", [("base", none), ("pysqlite", none), ("aiosqlite", some "aiosqlite"),
    ("pysqlcipher", some "pysqlcipher3")]),
  ("postgresql", [("base", some "psycopg"), ("psycopg", some "psycopg"), ("psycopg2", some "psycopg2"),
    ("psycopg2cffi", some "psycopg2cffi"), ("pg8000", some "pg8000"), ("asyncpg", some "asyncpg")]),
  ("mysql", [("base", some "MySQLdb"), ("mysqldb", some "MySQLdb"), ("pymysql", some "pymysql"),
    ("mysqlconnector", some "mysql"), ("mariadbconnector", some "mariadb"), ("cymysql", some "cymysql"),
    ("aiomysql", some "aiomysql"), ("asyncmy", some "asyncmy"), ("pyodbc", some "pyodbc")]),
  ("mariadb", [("base", some "MySQLdb"), ("mysqldb", some "MySQLdb"), ("pymysql", some "pymysql"),
    ("mysqlconnector", some "mysql"), ("mariadbconnector", some "mariadb"), ("cymysql", some "cymysql"),
    ("aiomysql", some "aiomysql"), ("asyncmy", some "asyncmy"), ("pyodbc", some "pyodbc")]),
  ("oracle", [("base", some "oracledb"), ("oracledb", some "oracledb"), ("cx_oracle", some "cx_Oracle")]),
  ("mssql", [("base", some "pyodbc"), ("pyodbc", some "pyodbc"), ("pymssql", some "pymssql"),
    ("aioodbc", some "aioodbc"), ("mssqlpython", some "mssql_python")])]

/-- Refuses an address whose driver is unknown or lacks its module. -/
def checkDriver (u : DatabaseUrl) : Except Refusal Unit :=
  let named := Text.splitAt '+' u.driver.toList
  let found (kind driver : List Char) : Except Refusal Unit :=
    match ((drivers.lookup (String.ofList kind)).getD []).lookup (String.ofList driver) with
    | none => .error (.unknownDriver (".".intercalate (named.map String.ofList)))
    | some (some missing) => .error (.missingModule missing)
    | some none => .ok ()
  match named with
  | [kind] => found kind "base".toList
  | [kind, driver] => found kind driver
  | _ => .error .nestedDriver

/-! ## Options -/

/-- The values of an option, in order. -/
def values (u : DatabaseUrl) (name : String) : List String :=
  u.options.filterMap fun (k, v) => if k = name then some v else none

/-- The words for switches. -/
def switchWords : List (String × Bool) := [
  ("true", true), ("yes", true), ("on", true), ("y", true), ("t", true), ("1", true),
  ("false", false), ("no", false), ("off", false), ("n", false), ("f", false), ("0", false)]

/-- A switch that is off unless an option says otherwise; one given several times is on. -/
def switch (u : DatabaseUrl) (name : String) : Except Refusal Bool :=
  match u.values name with
  | [] => .ok false
  | [v] =>
    let word := Text.lower (Text.trim v)
    match switchWords.lookup word with
    | some b => .ok b
    | none => .error (.notASwitch word)
  | _ => .ok true

/-- Refuses an option that is no float. -/
def checkFloat (u : DatabaseUrl) (name : String) : Except Refusal Unit :=
  match u.values name with
  | [] => .ok ()
  | [v] => if (readFloat? v).isSome then .ok () else .error (.notAFloat v)
  | _ => .error .repeatedFloat

/-- An option that is an integer, and zero where it is absent. -/
def integer (u : DatabaseUrl) (name : String) : Except Refusal Int :=
  match u.values name with
  | [] => .ok 0
  | [v] => (readInteger v).mapError (.notAnInteger v)
  | _ => .error .repeatedInteger

/-- The options that the driver itself takes. -/
def driverOptions : List String :=
  ["uri", "timeout", "isolation_level", "detect_types", "check_same_thread", "cached_statements"]

/-- The value of an option as a text; several values are shown together. -/
def joinedValue : List String → String
  | [v] => v
  | vs => (Value.tuple (vs.map .text)).shown

/-- The options that are passed on in the name of a file, sorted by their names. -/
def passedOptions (u : DatabaseUrl) : List String :=
  let names := (u.options.map Prod.fst).eraseDups.filter fun k =>
    k ≠ "plugin" ∧ !driverOptions.contains k
  (names.mergeSort fun a b => a ≤ b).map fun k => k ++ "=" ++ joinedValue (u.values k)

/-! ## Engines -/

/-- How a database is connected to: the name of its file, whether that may be an address of its own, and
whether each thread has a connection of its own. -/
structure Engine where
  name : Option String
  uri : Bool
  separate : Bool
  detectTypes : Int
  cachedStatements : Int
  isolation : Bool

/-- The name that is connected to. -/
def connectedName (u : DatabaseUrl) (uri : Bool) : Except Refusal (Option String) :=
  if uri then
    match u.database, u.passedOptions with
    | name, [] => .ok name
    | some name, options => .ok (some (name ++ "?" ++ "&".intercalate options))
    | none, _ => .error .noName
  else .ok (some (if u.database.getD "" = "" then ":memory:" else u.database.getD ""))

/-- Something is given and is not empty. -/
def isGiven (s : Option String) : Bool := s.any (!·.isEmpty)

/-- The engine of an address. -/
def engine (u : DatabaseUrl) : Except Refusal Engine := do
  match u.values "plugin" with
  | name :: _ => throw (.unknownPlugin name)
  | [] => pure ()
  u.checkDriver
  if isGiven u.user || isGiven u.password || isGiven u.host || u.port.any (· ≠ 0) then
    throw (.notLocal u.redacted)
  let uri ← u.switch "uri"
  u.checkFloat "timeout"
  let detectTypes ← u.integer "detect_types"
  let _ ← u.switch "check_same_thread"
  let cachedStatements ← u.integer "cached_statements"
  let name ← u.connectedName uri
  return { name, uri, detectTypes, cachedStatements,
           separate := !isGiven u.database || u.database = some ":memory:" || u.values "mode" = ["memory"],
           isolation := 1 < (u.values "isolation_level").length }

/-- The engine of the address that a text is. -/
def engineOfText (s : String) : Except Refusal Engine :=
  match read s with
  | .ok u => u.engine
  | .error f => .error (.notAnAddress f)

end RuleLabels.DatabaseUrl
