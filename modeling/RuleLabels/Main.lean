import RuleLabels.CommandLine
import RuleLabels.Files.Disk
import Std.Time.DateTime.Timestamp

/-!
# The program

Runs a command. The files that the arguments and the settings name are read before it runs, and those
that it changes are written after it.
-/

namespace RuleLabels.Main

/-! ## Surroundings -/

/-- The variables that settings come from. -/
def variableNames : List String := ["STORE_BACKEND", "STORE_DATA_DIR", "STORE_SEED_DEFAULTS", "API_HOST",
  "API_PORT", "LOG_LEVEL", "DATABASE_URL", "DB_ECHO"]

/-- The variables that are set. -/
def readEnvironment : IO Environment :=
  variableNames.filterMapM fun name => do return (← IO.getEnv name).map (name, ·)

/-- The time by the clock. -/
def readClock : IO Timestamp := do
  let nanoseconds := (← Std.Time.Timestamp.now).toNanosecondsSinceUnixEpoch.val
  return (Timestamp.ofMicroseconds? (nanoseconds.toNat / 1000)).getD .epoch

/-- A source of identifiers that begin with random digits. -/
def randomIds : IO IdSource := do
  let bytes := (← IO.getRandomBytes 6).toList
  let number (bs : List UInt8) : Nat := Text.ofDigits 256 (bs.map UInt8.toNat)
  return ⟨number (bytes.take 3), number (bytes.drop 3)⟩

/-! ## Files -/

/-- The address of the database. -/
def databaseAddress (e : Environment) : String := (DatabaseSettings.ofEnvironment e).url

/-- The file that the database is kept in. -/
def databaseFile? (e : Environment) : Option Location :=
  match DatabaseUrl.engineOfText (databaseAddress e) with
  | .ok engine =>
    match engine.destination with
    | .ok (.file l _) => some l
    | _ => none
  | .error _ => none

/-- The files that the settings and the arguments name. -/
def namedFiles (e : Environment) (args : List String) : List Location :=
  let folder := (Settings.ofEnvironment e).dataFolder
  let unmarked (a : String) : String :=
    match a.toList with
    | '@' :: rest => String.ofList rest
    | _ => a
  (DatabaseUrl.fileOfText? (databaseAddress e)).toList ++ (databaseFile? e).toList
    ++ [folder.child "rules.json", folder.child "processed_data.json"]
    ++ args.map fun a => .ofText (unmarked a)

/-- Reads what is on the way from a folder along some names. -/
def readAlong (fs : Files) (key : FileKey) : List String → IO Files
  | [] => return fs
  | part :: rest => do
    let key := key ++ [part]
    match ← (IO.FS.readBinFile (FileKey.text key)).toBaseIO with
    | .ok b => return fs.setContent key (.bytes b.data.toList)
    | .error (.inappropriateType ..) => readAlong (fs.setFolder key) key rest
    | .error _ => return fs

/-- Takes the tables out of the file of the database. -/
def openTables (e : Environment) (fs : Files) : Files :=
  match databaseFile? e with
  | none => fs
  | some l =>
    match fs.key l, fs.content l with
    | .ok key, .ok (.bytes b) =>
      match Tables.ofBytes? b with
      | some t => fs.setContent key (.tables t)
      | none => fs
    | _, _ => fs

/-- Reads the files that the settings and the arguments name. -/
def readFiles (e : Environment) (args : List String) : IO Files := do
  let fs ← (namedFiles e args).foldlM (fun fs l =>
    readAlong fs (if l.root = "" then [] else [l.root]) l.parts) Files.empty
  return openTables e fs

/-- Writes an entry. -/
def writeEntry (key : FileKey) (e : Entry) : IO Unit :=
  match e.kept? with
  | none => IO.FS.createDirAll key.text
  | some b => IO.FS.writeBinFile key.text ⟨b.toArray⟩

/-! ## Messages -/

/-- A message as a line of the log. -/
def logLine (now : Timestamp) (e : LogEntry) : String :=
  let two := Text.paddedDecimal 2
  let t := now.time
  let clock := s!"{two t.hour}:{two t.minute}:{two t.second},{Text.paddedDecimal 3 (t.microsecond / 1000)}"
  s!"{now.date.text} {clock} {e.level.name} [{e.sender}] {e.message}"

end RuleLabels.Main

open RuleLabels RuleLabels.Main in
/-- Runs a command, and gives its exit code. -/
def main (args : List String) : IO UInt32 := do
  let environment ← readEnvironment
  let now ← readClock
  let files ← readFiles environment args
  let world : World := ⟨now, ← randomIds, environment, files, ⟨0, 0, []⟩⟩
  let (outcome, after) := (CommandLine.run args).run world
  for (key, e) in files.changesSince after.files do
    writeEntry key e
  for e in after.log.entries.reverse do
    IO.eprintln (logLine now e)
  match outcome with
  | .ok o =>
    IO.print o.stdout
    IO.eprint o.stderr
    return o.exit.toUInt32
  | .error f =>
    IO.eprintln f.text
    return 1
