import RuleLabels.Value

/-!
# Names of entries

When two scalars are the same name of an entry: numbers and switches by what they count, moments by their
instants, and all else by what it is. A list of entries has each name once, in the place where it came
first, with the value that came last. A set shows whole numbers by their remainders.
-/

namespace RuleLabels.Value

/-- What a number or a switch counts, in the smallest units, or the number without digits that it is. -/
def amount? : Value → Option (Int ⊕ Binary64)
  | bool b => some (.inl (b.toNat * 2 ^ 1074))
  | int i => some (.inl (i * 2 ^ 1074))
  | float x =>
    match x.units? with
    | some n => some (.inl n)
    | none => some (.inr x)
  | _ => none

/-- Two moments name the same entry. -/
def sameMoment (m n : Moment) : Bool :=
  m.offset.isSome = n.offset.isSome && m.toTimestamp.instant = n.toTimestamp.instant

/-- Two scalars name the same entry. -/
def sameKey : Value → Value → Bool
  | null, null => true
  | text s, text t => s = t
  | bytes a, bytes b => a = b
  | date d, date e => d = e
  | moment m, moment n => sameMoment m n
  | v, w =>
    match v.amount?, w.amount? with
    | some x, some y => x = y
    | _, _ => false

/-- The entries with one put in. -/
def putEntry (key v : Value) : List (Value × Value) → List (Value × Value)
  | [] => [(key, v)]
  | (k, w) :: rest => if sameKey k key then (k, v) :: rest else (k, w) :: putEntry key v rest

/-- The fields that entries are, if all their names are texts. -/
def fieldsOfEntries? : List (Value × Value) → Option Fields
  | [] => some []
  | (text k, v) :: rest => (fieldsOfEntries? rest).map ((k, v) :: ·)
  | _ :: _ => none

/-- The object with some entries, of which those with the same name are one. -/
def ofEntries (entries : List (Value × Value)) : Value :=
  let entries := entries.foldl (fun done (k, v) => putEntry k v done) []
  match fieldsOfEntries? entries with
  | some fields => object fields
  | none => mapping entries

/-! ## Members of sets -/

/-- The whole number that a value is. -/
def whole? : Value → Option Int
  | bool b => some b.toNat
  | int i => some i
  | float x => x.toInt?
  | _ => none

/-- The number of places that a set with some number of members has. -/
def setRoom (size : Nat) : Nat := if size < 5 then 8 else 2 ^ ((2 * size).log2 + 1)

/-- The place of a whole number in a set: its remainder, where -1 shares the place of -2. -/
def setPlace (room : Nat) (i : Int) : Int := (if i = -1 then -2 else i) % room

/-- The members of a set as it shows them: whole numbers by their places, if these are different ones, and
all else as it is. -/
def setOrder (members : List Value) : List Value :=
  match members.mapM whole? with
  | some numbers =>
    let places := numbers.map (setPlace (setRoom members.length))
    if places.eraseDups.length = places.length then
      ((members.zip places).mergeSort fun a b => a.2 ≤ b.2).map Prod.fst
    else members
  | none => members

end RuleLabels.Value
