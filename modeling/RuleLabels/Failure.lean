import RuleLabels.DatabaseUrl.Destination
import RuleLabels.Fault
import RuleLabels.Files
import RuleLabels.Json.Error
import RuleLabels.Yaml.Error

/-!
# Failures

Why an operation on rules, records or their store fails, the code of the failure where it has one, and
its wording.
-/

namespace RuleLabels

/-! ## Codes -/

/-- The codes of failures. -/
inductive ErrorCode where
  | validationFailed
  | ruleNotFound
  | payloadInvalid
  | parseFailed
  | storeFailed
  deriving DecidableEq

namespace ErrorCode

/-- The name of a code. -/
def name : ErrorCode → String
  | validationFailed => "RULES_001_VALIDATION_FAILED"
  | ruleNotFound => "RULES_002_RULE_NOT_FOUND"
  | payloadInvalid => "RULES_003_PAYLOAD_INVALID"
  | parseFailed => "RULES_004_PARSE_FAILED"
  | storeFailed => "RULES_005_STORE_FAILED"

/-- What a code means. -/
def meaning : ErrorCode → String
  | validationFailed => "Rule validation failed."
  | ruleNotFound => "Rule not found."
  | payloadInvalid => "Invalid JSON payload."
  | parseFailed => "Rules file parse failed."
  | storeFailed => "Store is not available."

end ErrorCode

/-- The code of a fault in a document. -/
def Fault.code : Fault → ErrorCode
  | notAPayload _ => .payloadInvalid
  | _ => .validationFailed

/-- The place and the wording of a fault. -/
def Invalid.detail (e : Invalid) : String := e.path.text ++ ": " ++ e.fault.text

/-! ## Causes -/

/-- Why a file of rules cannot be used. -/
inductive RulesFileFault where
  | file (e : FileError)
  | notUtf8 (e : Text.Utf8Error)
  | notJson (message : String)
  | notYaml (e : Yaml.Error)
  | noRules

/-- The wording of a fault in a file of rules. -/
def RulesFileFault.text : RulesFileFault → String
  | file e => e.text
  | notUtf8 e => e.text
  | notJson message => message
  | notYaml e => e.text
  | noRules => "expected a list of rules or a 'rules' key"

/-- What is wrong with a database that is in use. -/
inductive DatabaseFault where
  | notADatabase
  | noTables
  | readOnly
  deriving DecidableEq

/-- The report of a failed statement, with the mark of the page about it. -/
def failedStatement (kind message statement page : String) : String :=
  s!"(sqlite3.{kind}) {message}\n[SQL: {statement}]\n" ++
    s!"(Background on this error at: https://sqlalche.me/e/21/{page})"

/-- The wording of a fault that a statement meets. -/
def DatabaseFault.textAt (statement : String) : DatabaseFault → String
  | notADatabase => failedStatement "DatabaseError" "file is not a database" statement "4xp6"
  | noTables => failedStatement "OperationalError" "no such table: labeling_rules" statement "e3q8"
  | readOnly =>
    failedStatement "OperationalError" "attempt to write a readonly database" statement "e3q8"

/-- Why the tables of a database cannot be made. -/
inductive SchemaFault where
  | connect (f : DatabaseUrl.ConnectFault)
  | database (f : DatabaseFault)

/-- The statement that makes the first table. -/
def creation : String :=
  let columns := ["id VARCHAR NOT NULL", "position INTEGER NOT NULL", "name VARCHAR NOT NULL",
    "label VARCHAR NOT NULL", "priority INTEGER NOT NULL", "enabled BOOLEAN NOT NULL",
    "conditions_json JSON NOT NULL", "created_at VARCHAR NOT NULL", "updated_at VARCHAR NOT NULL",
    "PRIMARY KEY (id)"]
  "\nCREATE TABLE labeling_rules (\n\t" ++ ", \n\t".intercalate columns ++ "\n)\n\n"

/-- The wording of a fault. -/
def SchemaFault.text : SchemaFault → String
  | connect f => f.text
  | database .readOnly => DatabaseFault.readOnly.textAt creation
  | database f => f.textAt "PRAGMA main.table_info(\"labeling_rules\")"

/-- Why a store does not work. -/
inductive StoreFault where
  | unsupported (backend : String)
  | unreadable (path reason : String)
  | notAnArray (path : String)
  | invalidRule (place : String) (e : Invalid)
  | invalidRecord (place : String) (e : Invalid)
  | noSchema (url : String) (reason : SchemaFault)

/-- The wording of a fault of a store. -/
def StoreFault.text : StoreFault → String
  | unsupported backend => s!"unsupported store backend={backend}"
  | unreadable path reason => s!"cannot read {path}: {reason}"
  | notAnArray path => s!"{path}: expected array"
  | invalidRule place e => s!"{place} holds an invalid rule: {e.detail}"
  | invalidRecord place e => s!"{place} holds an invalid record: {e.detail}"
  | noSchema url reason => s!"database schema is not ready (url={url}): {reason.text}"

/-! ## Failures -/

/-- A failed operation. -/
inductive Failure where
  | invalid (e : Invalid)
  | ruleNotFound (id : String)
  | unusableRules (name : String) (cause : RulesFileFault)
  | store (cause : StoreFault)
  | numberTooLarge
  | integerTooWide
  | integerTooLong (digits : Nat)
  | longInteger
  | notFields (fault : Fault)
  | notAnObject (kind : String)
  | loneCondition
  | notUtf8 (e : Text.Utf8Error)
  | notEncodable (e : Text.EncodeError)
  | notJson (message : String)
  | nestedTooDeeply (message : String)
  | unwritable (r : Json.Refusal)
  | unstorable (r : Json.Refusal)
  | unreadableYaml (m : Yaml.Misfit)
  | duplicateKey (column : String)
  | database (f : DatabaseFault)
  | file (e : FileError)
  | unknownLevel (name : String)
  | unusableLevel
  | unusableUrl (r : DatabaseUrl.Refusal)

namespace Failure

/-- The failure for a fault in a document. A value that cannot even be shown, or asked for its fields, has
no place. -/
def ofInvalid (e : Invalid) : Failure :=
  match e.fault with
  | .longInteger => longInteger
  | .noFields _ => notFields e.fault
  | .notAPair _ _ => notFields e.fault
  | _ => invalid e

/-- The failure to read a JSON text. -/
def ofJson (source : String) (e : Json.Error) : Failure :=
  match e with
  | .integerTooLong digits => integerTooLong digits
  | .tooDeep _ => nestedTooDeeply (e.text source)
  | .malformed .. => notJson (e.text source)

/-- The code of a failure, and what the code leaves open. -/
def coded? : Failure → Option (ErrorCode × String)
  | invalid e => some (e.fault.code, e.detail)
  | ruleNotFound id => some (.ruleNotFound, "id=" ++ id)
  | unusableRules name cause => some (.parseFailed, name ++ ": " ++ cause.text)
  | store cause => some (.storeFailed, cause.text)
  | _ => none

/-- The wording of a failure with a code. -/
def codedText (code : ErrorCode) (detail : String) : String :=
  code.name ++ ": " ++ code.meaning ++ (if detail.isEmpty then "" else " detail=" ++ detail)

/-- The wording of a failure without a code. -/
def plainText : Failure → String
  | numberTooLarge => "int too large to convert to float"
  | integerTooWide => "Python int too large to convert to SQLite INTEGER"
  | integerTooLong digits => Text.tooManyDigitsText digits
  | longInteger => Value.longIntegerText
  | notFields fault => fault.text
  | notAnObject kind => s!"'{kind}' object has no attribute 'get'"
  | loneCondition => "'Condition' object has no attribute 'children'"
  | notUtf8 e => e.text
  | notEncodable e => e.text
  | notJson message => message
  | nestedTooDeeply message => message
  | unwritable r => r.text
  | unstorable r => s!"({r.kind}) {r.text}"
  | unreadableYaml m => m.text
  | duplicateKey column => s!"UNIQUE constraint failed: {column}"
  | database f => f.textAt "DELETE FROM labeling_rules"
  | file e => e.text
  | unknownLevel name => s!"Unknown level: {Text.quoted name}"
  | unusableLevel => "Level not an integer or a valid string"
  | unusableUrl r => r.text
  | _ => ""

/-- The wording of a failure. -/
def text (f : Failure) : String :=
  match f.coded? with
  | some (code, detail) => codedText code detail
  | none => f.plainText

end Failure

end RuleLabels
