import RuleLabels.Json.Write
import RuleLabels.Processing

/-!
# The command line

The operations on rules and payloads as commands with options. A command prints a JSON document; one of a
failed command tells the code and the wording of the failure.
-/

namespace RuleLabels.CommandLine

/-- What a command leaves: its exit code and what it wrote. -/
structure Outcome where
  exit : Nat
  stdout : String
  stderr : String

/-- The outcome of a command that prints a document. -/
def printed (fields : Fields) : Action Outcome :=
  match Json.refusal? .screen (.object fields) with
  | some r => throw (.unwritable r)
  | none => return ⟨0, Json.indented (.object fields) ++ "\n", ""⟩

/-- The outcome of a command that is used wrongly. -/
def misused (message : String) : Outcome := ⟨2, "", message ++ "\n"⟩

/-- How commands are used. -/
def usage : String :=
  "Usage: python -m labeler.workers.cli " ++
    "rules:list|rules:validate|rules:import|rules:toggle|classify|stats|serve [options]"

/-! ## Options -/

/-- The value of an option: the argument behind its first mention. -/
def option? (key : String) : List String → Option String
  | [] => none
  | a :: rest => if a = key then rest.head? else option? key rest

/-- The value of an option, unless it is empty. -/
def given? (key : String) (args : List String) : Option String :=
  (option? key args).filter (!·.isEmpty)

/-- Runs an operation on a store of its own, of the kind that the options ask for. -/
def withStore {α : Type} (args : List String) (s : Service α) : Action α := do
  s.on (← Store.openStore (option? "--backend" args))

/-- Runs a command with an option that it needs. -/
def withOption (key command : String) (args : List String) (k : String → Action Outcome) :
    Action Outcome :=
  match given? key args with
  | some s => k s
  | none => return misused s!"{key} is required for {command}"

/-! ## Commands -/

/-- Lists the rules. -/
def listRules (args : List String) : Action Outcome := do
  let rules ← withStore args Service.rules
  printed [("ok", .bool true), ("count", .int rules.length),
    ("rules", .array (rules.map Rule.toValue))]

/-- What a check of a file tells about a rule. -/
def validatedRule (r : Rule) : Value :=
  .object [("id", .text r.id), ("name", .text r.name), ("label", .text r.label),
    ("priority", .int r.priority)]

/-- Checks a file of rules. -/
def validateRules (args : List String) : Action Outcome :=
  withOption "--file" "rules:validate" args fun path => do
    let rules ← Rule.load (.ofText path)
    printed [("ok", .bool true), ("path", .text path),
      ("validated", .array (rules.map validatedRule))]

/-- Imports a file of rules. -/
def importRules (args : List String) : Action Outcome :=
  withOption "--file" "rules:import" args fun path => do
    let imported ← withStore args (Service.importRules (.ofText path) (args.contains "--replace"))
    printed (("ok", .bool true) :: imported.fields)

/-- Switches a rule. -/
def toggleRule (args : List String) : Action Outcome :=
  withOption "--id" "rules:toggle" args fun id => do
    let r ← withStore args (Service.toggleRule id .null)
    printed [("ok", .bool true), ("rule", r.toValue)]

/-- The text of a payload: the argument itself, or the file that it names behind a sign. -/
def payloadText (raw : String) : Action String := do
  match raw.toList with
  | '@' :: path =>
    match (← get).files.content (.ofText (String.ofList path)) with
    | .error e => throw (.file e)
    | .ok c =>
      match c.decoded with
      | .error e => throw (.notUtf8 e)
      | .ok text => return text
  | _ => return raw

/-- Reads a payload. -/
def readPayload (raw : String) : Action Value := do
  let text ← payloadText raw
  match Json.read text with
  | .ok v => return v
  | .error e => throw (.ofJson text e)

/-- Gives labels to a payload. -/
def classify (args : List String) : Action Outcome :=
  withOption "--payload" "classify" args fun raw => do
    let payload ← readPayload raw
    if args.contains "--dry-run" then
      let r ← withStore args (Service.dryRun payload)
      printed [("ok", .bool true), ("dry_run", .bool true), ("labels", Value.ofTexts r.labels),
        ("timestamp", .text r.timestamp.text)]
    else
      let r ← withStore args (Service.process payload)
      printed [("ok", .bool true), ("id", .text r.id), ("labels", Value.ofTexts r.labels),
        ("timestamp", .text r.createdAt.text)]

/-- A bound on the time that an option gives. -/
def timeBound (key name : String) (args : List String) : Checked (Option Timestamp) :=
  match given? key args with
  | some s => ((Value.text s).readTimestamp (Path.document.field name)).map some
  | none => .ok none

/-- The criteria that options give. -/
def criteria (args : List String) : Checked Criteria := do
  let since ← timeBound "--from" "from" args
  let till ← timeBound "--to" "to" args
  return ⟨option? "--label" args, since, till⟩

/-- Sums up the records. -/
def statistics (args : List String) : Action Outcome := do
  let c ← Action.ofChecked (criteria args)
  let snapshot ← withStore args (Service.statistics c)
  printed (("ok", .bool true) :: snapshot.fields)

/-- The commands by their names. -/
def commands : List (String × (List String → Action Outcome)) := [
  ("rules:list", listRules), ("rules:validate", validateRules), ("rules:import", importRules),
  ("rules:toggle", toggleRule), ("classify", classify), ("stats", statistics),
  ("serve", fun _ => return misused "serve needs a network")]

/-! ## Running -/

/-- The document that tells about a failure, on one line. -/
def failureLine (code message : String) : String :=
  Json.line (.object [("ok", .bool false), ("error_code", .text code), ("error", .text message)]) ++ "\n"

/-- The outcome of a failed command. -/
def ofFailure (f : Failure) : Outcome :=
  match f with
  | .notJson message => ⟨10, failureLine ErrorCode.payloadInvalid.name message, ""⟩
  | f =>
    match f.coded? with
    | some (code, _) => ⟨10, failureLine code.name f.text, ""⟩
    | none => ⟨12, failureLine "RULES_999_UNEXPECTED" f.text, ""⟩

/-- Sets the threshold of the log by its name in capitals. -/
def configureLog (name : String) : Action Unit := do
  match Threshold.ofName name with
  | .number n => modify fun w => { w with log := w.log.configure n }
  | .unknownName s => throw (.unknownLevel s)
  | .notALevel => throw .unusableLevel

/-- Runs a command. Only a log that cannot be set up makes the run itself fail. -/
def run (args : List String) : Action Outcome := do
  match args with
  | [] => return misused usage
  | command :: rest =>
    configureLog (Settings.ofEnvironment (← get).environment).logLevel
    match commands.lookup command with
    | none => return misused ("Unknown command: " ++ command)
    | some f =>
      try f rest
      catch e => return ofFailure e

end RuleLabels.CommandLine
