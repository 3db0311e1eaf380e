import RuleLabels.Store.Database
import RuleLabels.Store.Folder

/-!
# Stores

A store keeps a list of rules, which is replaced as a whole, and a list of records, to which records are
only added. It is in memory, in a folder or in a database; memory is lost with the store, the others are
found again when they are opened again.
-/

namespace RuleLabels

/-- A store of rules and records. -/
inductive Store where
  | memory (rules : List Rule) (records : List Record)
  | folder (s : FolderStore)
  | database (s : DatabaseStore)

namespace Store

/-- The name of the kind of a store. -/
def backend : Store → String
  | memory _ _ => "memory"
  | folder _ => "file"
  | database _ => "db"

/-! ## Operations -/

/-- The rules, in their order. -/
def rules : Store → Action (List Rule)
  | memory rules _ => pure rules
  | folder s => s.rules
  | database s => s.rules

/-- Replaces the rules. -/
def saveRules (rules : List Rule) : Store → Action Store
  | memory _ records => pure (memory rules records)
  | folder s => do
    s.saveRules rules
    return folder s
  | database s => do return database (← s.saveRules rules)

/-- The records, in the order in which they were added. -/
def records : Store → Action (List Record)
  | memory _ records => pure records
  | folder s => s.records
  | database s => s.records

/-- Adds a record. -/
def append (r : Record) : Store → Action Store
  | memory rules records => pure (memory rules (records ++ [r]))
  | folder s => do
    s.append r
    return folder s
  | database s => do return database (← s.append r)

/-- What a store tells about itself. -/
def info : Store → Action Fields
  | memory _ _ => pure [("store_backend", .text "memory")]
  | folder s => pure [("store_backend", .text "file"), ("data_dir", .text s.place.text)]
  | database s => do
    let t ← s.tables
    return [("store_backend", .text "db"), ("db_url", .text (DatabaseUrl.redact s.url)),
      ("db_dialect", .text "sqlite"), ("record_count", .int t.records.length)]

/-- The store as another thread sees it. -/
def elsewhere : Store → Store
  | database s => database s.elsewhere
  | s => s

/-- Each thread has a store of its own. -/
def isSeparate : Store → Bool
  | database ⟨_, .memory separate _, _⟩ => separate
  | _ => false

/-! ## Opening -/

/-- Where a store is to be opened. -/
inductive Place where
  | memory
  | folder (l : Location)
  | database (url : String)

/-- Opens the store at a place. A new one begins with the default rules if it is to be seeded. -/
def openAt (limits : Json.Limits) (seed : Bool) : Place → Action Store
  | .memory => do
    let now ← Action.now
    return memory (if seed then Rule.defaults now else []) []
  | .folder l => do
    let s : FolderStore := ⟨l, limits.file⟩
    s.prepare seed
    return folder s
  | .database url => do return database (← DatabaseStore.openAt url limits.column seed)

/-- Opens the store of a kind by the settings of the environment. -/
def openKind (limits : Json.Limits) (kind : String) : Action Store := do
  let e := (← get).environment
  let settings := Settings.ofEnvironment e
  match kind with
  | "memory" => openAt limits settings.seedDefaults .memory
  | "file" => openAt limits settings.seedDefaults (.folder settings.dataFolder)
  | "db" => openAt limits settings.seedDefaults (.database (DatabaseSettings.ofEnvironment e).url)
  | _ => throw (.store (.unsupported kind))

/-- Opens a store of the given kind, or else of the kind that the environment chooses. -/
def openStore (requested : Option String) : Action Store := do
  let chosen := (Settings.ofEnvironment (← get).environment).backend
  let kind := match requested with
    | some name => if name.isEmpty then chosen else name
    | none => chosen
  let s ← openKind .ofStack (Text.lower (Text.trim kind))
  Action.log .info "labeler.store" s!"opened {s.backend} store"
  return s

end Store

/-- A store and its surroundings. -/
structure Session where
  store : Store
  world : World

/-- An operation on a store and its surroundings. One that fails keeps what it has done to both. -/
abbrev Service := ExceptT Failure (StateM Session)

namespace Service

/-- An operation on the surroundings, which leaves the store as it is. -/
def ofAction {α : Type} (x : Action α) : Service α := ExceptT.mk fun s =>
  let (r, world) := ExceptT.run x s.world
  (r, { s with world })

instance : MonadLift Action Service := ⟨ofAction⟩

/-- The store. -/
def store : Service Store := ExceptT.mk fun s => (.ok s.store, s)

/-- Replaces the store. -/
def setStore (store : Store) : Service Unit := ExceptT.mk fun s => (.ok (), { s with store })

/-- The rules of the store. -/
def rules : Service (List Rule) := do (← store).rules

/-- Replaces the rules of the store. -/
def saveRules (rules : List Rule) : Service Unit := do setStore (← (← store).saveRules rules)

/-- The records of the store. -/
def records : Service (List Record) := do (← store).records

/-- Adds a record to the store. -/
def append (r : Record) : Service Unit := do setStore (← (← store).append r)

/-- An operation on the store as another thread sees it. -/
def elsewhere {α : Type} (x : Service α) : Service α := ExceptT.mk fun s =>
  let (r, after) := ExceptT.run x ⟨s.store.elsewhere, s.world⟩
  (r, if s.store.isSeparate then { after with store := s.store } else after)

/-- An operation on a store, as one on its surroundings. -/
def on {α : Type} (store : Store) (x : Service α) : Action α := ExceptT.mk fun world =>
  let (r, after) := ExceptT.run x ⟨store, world⟩
  (r, after.world)

end Service

end RuleLabels
