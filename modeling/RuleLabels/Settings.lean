import RuleLabels.Files.Location
import RuleLabels.Number.Reading
import RuleLabels.Text.Case

/-!
# Settings

What the environment decides: the store that rules and records are kept in, the address of the service,
how much is logged and where the database is. Blanks around a setting are ignored, and a setting that
makes no sense counts as absent.
-/

namespace RuleLabels

/-- Variables and their values. -/
abbrev Environment := List (String × String)

namespace Environment

/-- The value of a variable. -/
def get? (e : Environment) (name : String) : Option String := e.lookup name

/-- The environment with one variable set. -/
def set (e : Environment) (name value : String) : Environment :=
  (name, value) :: e.filter fun x => x.1 ≠ name

/-- A variable without the blanks around it, or a default where nothing is left. -/
def textOr (e : Environment) (name default : String) : String :=
  let s := Text.trim ((e.get? name).getD default)
  if s.isEmpty then default else s

/-- A variable that says yes. An absent variable says what the default does. -/
def switch (e : Environment) (name default : String) : Bool :=
  ["1", "true", "yes", "on"].contains (Text.lower (Text.trim ((e.get? name).getD default)))

/-- A variable as an integer. -/
def integerOr (e : Environment) (name : String) (default : Int) : Int :=
  match readInteger (Text.trim ((e.get? name).getD "")) with
  | .ok n => n
  | .error _ => default

end Environment

/-! ## Settings of the service -/

/-- The settings of the service. -/
structure Settings where
  backend : String
  dataFolder : Location
  seedDefaults : Bool
  host : String
  port : Int
  logLevel : String

namespace Settings

/-- The kinds of stores that may be chosen. -/
def backends : List String := ["memory", "file", "db"]

/-- The kind of store that a setting chooses. -/
def chosenBackend (s : String) : String :=
  let name := Text.lower (Text.trim s)
  if backends.contains name then name else "db"

/-- The settings that an environment makes. -/
def ofEnvironment (e : Environment) : Settings where
  backend := chosenBackend ((e.get? "STORE_BACKEND").getD "")
  dataFolder := .ofText (e.textOr "STORE_DATA_DIR" "data")
  seedDefaults := e.switch "STORE_SEED_DEFAULTS" "true"
  host := e.textOr "API_HOST" "127.0.0.1"
  port := e.integerOr "API_PORT" 8790
  logLevel := Text.upper (e.textOr "LOG_LEVEL" "INFO")

end Settings

/-! ## Settings of the database -/

/-- Where the database is, and whether its statements are shown. -/
structure DatabaseSettings where
  url : String
  echo : Bool

/-- The database settings that an environment makes. -/
def DatabaseSettings.ofEnvironment (e : Environment) : DatabaseSettings where
  url := e.textOr "DATABASE_URL" "sqlite:///data/labeler.db"
  echo := e.switch "DB_ECHO" "false"

end RuleLabels
