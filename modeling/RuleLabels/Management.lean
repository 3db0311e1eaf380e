import RuleLabels.Rule.Edit
import RuleLabels.Rule.File
import RuleLabels.Store

/-!
# Management of rules

The operations on the rules of a store: listing, making, changing, removing and switching rules, and
importing them from files.
-/

namespace RuleLabels.Service

/-- The sender of the messages about rules. -/
def rulesSender : String := "labeler.rules"

/-- The rule with an identifier. -/
def rule (id : String) : Service Rule := do
  match Rule.withId? id (← rules) with
  | some r => return r
  | none => throw (.ruleNotFound id)

/-- The fields of a value that a rule is made or changed with, which has to be an object. -/
def givenFields (v : Value) : Service Fields :=
  match v.fields? with
  | some fields => pure fields
  | none => throw (.notAnObject v.kind)

/-- Makes a rule. -/
def createRule (fields : Fields) : Service Rule := do
  Action.ofChecked (fields.checkGiven Draft.required)
  let now ← Action.now
  let id ← Rule.freshId
  let draft ← Action.ofChecked (Draft.read fields)
  let r := draft.toRule id now
  let current ← rules
  saveRules (current ++ [r])
  Action.log .info rulesSender s!"created rule id={r.id} label={r.label} priority={r.priority}"
  return r

/-- Changes the rule with an identifier. -/
def changeRule (id : String) (c : Change) : Service Rule := do
  let current ← rules
  match Rule.withId? id current with
  | none => throw (.ruleNotFound id)
  | some r =>
    let now ← Action.now
    saveRules (Rule.editFirst id (c.apply now) current)
    Action.log .info rulesSender s!"updated rule id={id} fields={Value.shownTexts c.names}"
    return c.apply now r

/-- Changes the rule with an identifier as some fields say; null fields change nothing. -/
def updateRule (id : String) (fields : Fields) : Service Rule := do
  let c ← Action.ofChecked (Change.read fields)
  changeRule id c

/-- Removes the rule with an identifier. -/
def deleteRule (id : String) : Service Unit := do
  let current ← rules
  let kept := Rule.withoutId id current
  if kept.length = current.length then throw (.ruleNotFound id)
  saveRules kept
  Action.log .info rulesSender s!"deleted rule id={id}"

/-- Switches the rule with an identifier: as a value says, or else to the other side. -/
def toggleRule (id : String) (enabled : Value) : Service Rule := do
  let current ← rule id
  if enabled.isNull then changeRule id (.switch !current.enabled)
  else updateRule id [("enabled", enabled)]

/-- The outcome of an import. -/
structure Imported where
  count : Nat
  replaced : Bool
  total : Nat

/-- The written form of the outcome of an import. -/
def Imported.fields (i : Imported) : Fields :=
  [("imported", .int i.count), ("replaced", .bool i.replaced), ("total", .int i.total)]

/-- The rules that there are with others brought in: these alone, or all merged. -/
def broughtIn (incoming : List Rule) (replace : Bool) : Service (List Rule) :=
  if replace then pure incoming
  else do
    let current ← rules
    let now ← Action.now
    return Rule.merge now current incoming

/-- Brings in the rules of a file: in place of all rules, or merged into them. -/
def importRules (l : Location) (replace : Bool) : Service Imported := do
  let incoming ← Rule.load l
  let merged ← broughtIn incoming replace
  saveRules merged
  let shownReplace := (Value.bool replace).shown
  Action.log .info rulesSender
    s!"imported {incoming.length} rules from {l.text} (replace={shownReplace})"
  return ⟨incoming.length, replace, merged.length⟩

end RuleLabels.Service
