import Mathlib.Tactic.Common
import RuleLabels.Session

/-!
# Calls that edit rules, turn by turn

The operations that edit the rules of a store, as calls that can be stopped wherever they use the store or
their surroundings.  Another call may run in between: only one look at the store or one save is done in one
piece.  A call looks at things, and then fails or saves and answers: there is one save, at the end.

* `Call.perform` is all of a call in one go, and `Call.turn` is its next turn;
* `Edit.perform_operation`: an edit is its call;
* `Call.perform_eq`: a call is its next turn and then the rest.
-/

namespace RuleLabels

/-! ## Calls -/

/-- What is left of a call. -/
inductive Call where
  /-- It fails. -/
  | fail (e : Failure)
  /-- It looks at the time. -/
  | now (next : Timestamp → Call)
  /-- It takes an identifier for a rule. -/
  | ruleId (next : String → Call)
  /-- It loads a file of rules. -/
  | load (l : Location) (next : List Rule → Call)
  /-- It makes sure that there is a rule, and uses nothing else of what it sees. -/
  | seek (id : String) (next : Call)
  /-- It reads the rules, which what it saves rests on. -/
  | read (next : List Rule → Call)
  /-- It has the store take rules, sends a message and answers. -/
  | save (rules : List Rule) (message : String) (a : Answer)

/-- How far a call has come.  One that is not over yet may have read the rules that its save rests on. -/
inductive Task where
  | running (c : Call) (hasRead : Bool)
  | ended (outcome : Except Failure Answer)

namespace Call

/-- Carries out all of a call. -/
def perform : Call → Service Answer
  | fail e => throw e
  | now next => do (next (← Action.now)).perform
  | ruleId next => do (next (← Rule.freshId)).perform
  | load l next => do (next (← Rule.load l)).perform
  | seek id next => do
    let _ ← Service.rule id
    next.perform
  | read next => do (next (← Service.rules)).perform
  | save rules message a => do
    Service.saveRules rules
    Action.log .info Service.rulesSender message
    return a

/-- Carries out the next turn of a call. -/
def turn (hasRead : Bool) : Call → Service Task
  | fail e => throw e
  | now next => do return .running (next (← Action.now)) hasRead
  | ruleId next => do return .running (next (← Rule.freshId)) hasRead
  | load l next => do return .running (next (← Rule.load l)) hasRead
  | seek id next => do
    let _ ← Service.rule id
    return .running next hasRead
  | read next => do return .running (next (← Service.rules)) true
  | save rules message a => do
    Service.saveRules rules
    Action.log .info Service.rulesSender message
    return .ended (.ok a)

/-- Goes on with the outcome of a check. -/
def ofChecked {α : Type} (x : Checked α) (next : α → Call) : Call :=
  match x with
  | .ok a => next a
  | .error e => fail (.ofInvalid e)

theorem perform_ofChecked {α : Type} (x : Checked α) (next : α → Call) :
    (ofChecked x next).perform = (liftM (Action.ofChecked x) : Service α) >>= fun a => (next a).perform := by
  cases x <;> rfl

end Call

namespace Task

/-- Carries out the next turn of a task that is not over. -/
def turn : Task → Service Task
  | running c hasRead => c.turn hasRead
  | ended outcome => return ended outcome

/-- Carries out what is left of a task. -/
def finish : Task → Service Answer
  | running c _ => c.perform
  | ended (.ok a) => return a
  | ended (.error e) => throw e

/-- The next turn of a task is its save. -/
def saves : Task → Bool
  | running (.save ..) _ => true
  | _ => false

/-- A task has read the rules that its save rests on, and has not saved yet. -/
def isOpen : Task → Bool
  | running _ hasRead => hasRead
  | ended _ => false

end Task

/-- A call is its next turn and then the rest. -/
theorem Call.perform_eq (c : Call) (hasRead : Bool) : c.perform = c.turn hasRead >>= Task.finish := by
  cases c with
  | fail e => rfl
  | now next => simp only [perform, turn, bind_assoc, pure_bind, Task.finish]
  | ruleId next => simp only [perform, turn, bind_assoc, pure_bind, Task.finish]
  | load l next => simp only [perform, turn, bind_assoc, pure_bind, Task.finish]
  | seek id next => simp only [perform, turn, bind_assoc, pure_bind, Task.finish]
  | read next => simp only [perform, turn, bind_assoc, pure_bind, Task.finish]
  | save rules message a => simp only [perform, turn, bind_assoc, pure_bind, Task.finish]

/-! ## Edits -/

/-- An operation that edits rules. -/
inductive Edit where
  | create (fields : Fields)
  | update (id : String) (fields : Fields)
  | delete (id : String)
  | toggle (id : String) (enabled : Value)
  | load (l : Location) (replace : Bool)

namespace Edit

/-- An edit among the operations. -/
def operation : Edit → Operation
  | create fields => .create fields
  | update id fields => .update id fields
  | delete id => .delete id
  | toggle id enabled => .toggle id enabled
  | load l replace => .load l replace

/-- The call that makes a rule. -/
def createCall (fields : Fields) : Call :=
  .ofChecked (fields.checkGiven Draft.required) fun _ => .now fun now => .ruleId fun id =>
    .ofChecked (Draft.read fields) fun draft => .read fun current =>
      let r := draft.toRule id now
      .save (current ++ [r]) s!"created rule id={r.id} label={r.label} priority={r.priority}" (.rule r)

/-- The call that changes a rule. -/
def changeCall (id : String) (c : Change) : Call :=
  .read fun current =>
    match Rule.withId? id current with
    | none => .fail (.ruleNotFound id)
    | some r => .now fun now =>
      .save (Rule.editFirst id (c.apply now) current)
        s!"updated rule id={id} fields={Value.shownTexts c.names}" (.rule (c.apply now r))

/-- The call that changes a rule as some fields say. -/
def updateCall (id : String) (fields : Fields) : Call := .ofChecked (Change.read fields) (changeCall id)

/-- The call that removes a rule. -/
def deleteCall (id : String) : Call :=
  .read fun current =>
    let kept := Rule.withoutId id current
    if kept.length = current.length then .fail (.ruleNotFound id)
    else .save kept s!"deleted rule id={id}" .done

/-- The call that switches a rule.  It reads the rules twice to switch it to the other side. -/
def toggleCall (id : String) (enabled : Value) : Call :=
  if enabled.isNull then
    .read fun current =>
      match Rule.withId? id current with
      | none => .fail (.ruleNotFound id)
      | some r => changeCall id (.switch !r.enabled)
  else .seek id (updateCall id [("enabled", enabled)])

/-- The save at the end of an import. -/
def saveImported (l : Location) (replace : Bool) (incoming merged : List Rule) : Call :=
  let shownReplace := (Value.bool replace).shown
  .save merged s!"imported {incoming.length} rules from {l.text} (replace={shownReplace})"
    (.imported ⟨incoming.length, replace, merged.length⟩)

/-- The call that brings in the rules of a file. -/
def loadCall (l : Location) (replace : Bool) : Call :=
  .load l fun incoming =>
    if replace then saveImported l replace incoming incoming
    else .read fun current => .now fun now =>
      saveImported l replace incoming (Rule.merge now current incoming)

/-- The call of an edit. -/
def call : Edit → Call
  | create fields => createCall fields
  | update id fields => updateCall id fields
  | delete id => deleteCall id
  | toggle id enabled => toggleCall id enabled
  | load l replace => loadCall l replace

theorem perform_createCall (fields : Fields) :
    (createCall fields).perform = Answer.rule <$> Service.createRule fields := by
  simp only [createCall, Service.createRule, Call.perform_ofChecked, Call.perform, map_bind, map_pure]

theorem perform_changeCall (id : String) (c : Change) :
    (changeCall id c).perform = Answer.rule <$> Service.changeRule id c := by
  simp only [changeCall, Service.changeRule, Call.perform, map_bind]
  refine bind_congr fun current => ?_
  cases Rule.withId? id current with
  | none => rfl
  | some r => simp only [Call.perform, map_bind, map_pure]

theorem perform_updateCall (id : String) (fields : Fields) :
    (updateCall id fields).perform = Answer.rule <$> Service.updateRule id fields := by
  simp only [updateCall, Service.updateRule, Call.perform_ofChecked, perform_changeCall, map_bind]

theorem perform_deleteCall (id : String) :
    (deleteCall id).perform = (fun _ => Answer.done) <$> Service.deleteRule id := by
  simp only [deleteCall, Service.deleteRule, Call.perform, map_bind]
  refine bind_congr fun current => ?_
  split
  · rfl
  · simp only [Call.perform, map_bind, bind_pure_comp]

theorem perform_toggleCall (id : String) (enabled : Value) :
    (toggleCall id enabled).perform = Answer.rule <$> Service.toggleRule id enabled := by
  rw [toggleCall, Service.toggleRule]
  cases h : enabled.isNull with
  | false => simp [Call.perform, perform_updateCall]
  | true =>
    simp only [if_true, Call.perform, Service.rule, bind_assoc, map_bind]
    refine bind_congr fun current => ?_
    cases Rule.withId? id current with
    | none => rfl
    | some r => simp only [perform_changeCall, pure_bind]

theorem perform_loadCall (l : Location) (replace : Bool) :
    (loadCall l replace).perform = Answer.imported <$> Service.importRules l replace := by
  simp only [loadCall, Service.importRules, Service.broughtIn, Call.perform, map_bind]
  refine bind_congr fun incoming => ?_
  cases replace with
  | false =>
    simp [saveImported, Call.perform, bind_assoc]
  | true =>
    simp [saveImported, Call.perform]

/-- An edit is its call. -/
theorem perform_operation (e : Edit) : e.operation.perform = e.call.perform := by
  cases e with
  | create fields => exact (perform_createCall fields).symm
  | update id fields => exact (perform_updateCall id fields).symm
  | delete id => exact (perform_deleteCall id).symm
  | toggle id enabled => exact (perform_toggleCall id enabled).symm
  | load l replace => exact (perform_loadCall l replace).symm

end Edit

end RuleLabels
