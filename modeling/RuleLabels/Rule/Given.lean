import RuleLabels.Rule
import RuleLabels.Value.Key

/-!
# Rules given as pairs

Written rules may be given as objects, or as lists of pairs of a name and a value: a pair is whatever has
two parts.
-/

namespace RuleLabels

namespace Value

/-- The parts of a value: items, characters or names. -/
def parts? : Value → Option (List Value)
  | array items => some items
  | tuple items => some items
  | set items => some items
  | text s => some (s.toList.map fun c => text (String.singleton c))
  | object fields => some (fields.map fun f => text f.1)
  | mapping entries => some (entries.map Prod.fst)
  | looped _ v => v.parts?
  | _ => none

/-- A value that may name an entry. -/
def mayBeKey (v : Value) : Bool := v.items?.isNone && v.fields?.isNone

/-- The entries that pairs are, from number `i` on. -/
def entriesOfPairs (path : Path) : Nat → List Value → Checked (List (Value × Value))
  | _, [] => .ok []
  | i, v :: rest =>
    match v.parts? with
    | none => refuse path (.noFields v.kind)
    | some [key, w] =>
      if key.mayBeKey then (entriesOfPairs path (i + 1) rest).map ((key, w) :: ·)
      else refuse path (.noFields key.kind)
    | some parts => refuse path (.notAPair i parts.length)

/-- The object that a value is given as. -/
def givenObject (v : Value) (path : Path) : Checked Value :=
  if v.fields?.isSome then .ok v
  else
    match v.parts? with
    | none => refuse path (.noFields v.kind)
    | some pairs => (entriesOfPairs path 0 pairs).map ofEntries

end Value

/-- Reads given rules from number `i` on, each by itself. -/
def Rule.readGiven (now : Timestamp) (path : Path) : Nat → List Value → Checked (List Rule)
  | _, [] => .ok []
  | i, v :: rest => do
    let r ← Rule.read now (← v.givenObject (path.index i)) (path.index i)
    return r :: (← readGiven now path (i + 1) rest)

end RuleLabels
