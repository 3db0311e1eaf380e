import RuleLabels.Processing

/-!
# Sessions

A run of operations on one store. Each operation comes with the time and the identifiers that it is given,
and what it shows is its outcome, and the rules and records that the store gives after it. An operation that
fails leaves the store and its surroundings as it left them.
-/

namespace RuleLabels

/-! ## Operations -/

/-- What may be asked of a store. -/
inductive Operation where
  | list
  | read (id : String)
  | create (fields : Fields)
  | update (id : String) (fields : Fields)
  | delete (id : String)
  | toggle (id : String) (enabled : Value)
  | load (l : Location) (replace : Bool)
  | process (payload : Value)
  | dryRun (payload : Value)
  | statistics (c : Criteria)
  | records

/-- What is given back. -/
inductive Answer where
  | rules (rules : List Rule)
  | rule (r : Rule)
  | done
  | imported (i : Service.Imported)
  | record (r : Record)
  | dryRun (d : Service.DryRun)
  | snapshot (s : Snapshot)
  | records (records : List Record)

/-- Carries an operation out. -/
def Operation.perform : Operation → Service Answer
  | list => Answer.rules <$> Service.rules
  | read id => Answer.rule <$> Service.rule id
  | create fields => Answer.rule <$> Service.createRule fields
  | update id fields => Answer.rule <$> Service.updateRule id fields
  | delete id => (fun _ => Answer.done) <$> Service.deleteRule id
  | toggle id enabled => Answer.rule <$> Service.toggleRule id enabled
  | load l replace => Answer.imported <$> Service.importRules l replace
  | process payload => Answer.record <$> Service.process payload
  | dryRun payload => Answer.dryRun <$> Service.dryRun payload
  | statistics c => Answer.snapshot <$> Service.statistics c
  | records => Answer.records <$> Service.records

/-! ## Runs -/

namespace Session

/-- An operation with the time and the identifiers that it is given. -/
structure Step where
  now : Timestamp
  ids : IdSource
  operation : Operation

/-- What a step shows: its outcome, and the rules and the records after it. -/
structure Observation where
  outcome : Except Failure Answer
  rules : Except Failure (List Rule)
  records : Except Failure (List Record)

/-- The session with the store that is opened at a place, unless it cannot be opened. -/
def openAt? (limits : Json.Limits) (seed : Bool) (place : Store.Place) (w : World) : Option Session :=
  match ExceptT.run (Store.openAt limits seed place) w with
  | (.ok store, world) => some ⟨store, world⟩
  | (.error _, _) => none

/-- A session at the time and with the identifiers of a step. -/
def begin (s : Session) (t : Step) : Session :=
  { s with world := { s.world with now := t.now, ids := t.ids } }

/-- The outcome of a service, and the session after it. -/
def run {α : Type} (s : Session) (x : Service α) : Except Failure α × Session := ExceptT.run x s

/-- What a session shows after an outcome. -/
def observe (s : Session) (outcome : Except Failure Answer) : Observation :=
  ⟨outcome, (s.run Service.rules).1, (s.run Service.records).1⟩

/-- The session after a step, with what the step shows. -/
def step (s : Session) (t : Step) : Observation × Session :=
  let after := (s.begin t).run t.operation.perform
  (after.2.observe after.1, after.2)

/-- The session after steps. -/
def after (s : Session) : List Step → Session
  | [] => s
  | t :: rest => after (s.step t).2 rest

/-- What the steps of a session show. -/
def trace (s : Session) : List Step → List Observation
  | [] => []
  | t :: rest => (s.step t).1 :: trace (s.step t).2 rest

end Session

end RuleLabels
