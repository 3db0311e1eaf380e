import RuleLabels.Record
import RuleLabels.Share

/-!
# Statistics

A summary of the records that meet some criteria: how many there are, how many of them carry each
label and what share of them that is, and the newest of them.
-/

namespace RuleLabels

/-! ## Criteria -/

/-- What records are asked for: those with a label, and those of a span of time. -/
structure Criteria where
  label : Option String
  since : Option Timestamp
  till : Option Timestamp

namespace Criteria

/-- All records. -/
def everything : Criteria := ⟨none, none, none⟩

instance : Inhabited Criteria := ⟨everything⟩

/-- A bound on the time is given. -/
def hasBounds (c : Criteria) : Bool := c.since.isSome || c.till.isSome

/-- Whether a record lies in the span of time, which reaches from the epoch to `now` where a bound is open, unless
the times do not compare. -/
def spans? (now : Timestamp) (c : Criteria) (r : Record) : Option Bool :=
  if c.hasBounds then do
    let begun ← (c.since.getD .epoch).toMoment.isNotAfter? r.createdAt.toMoment
    if begun then r.createdAt.toMoment.isNotAfter? (c.till.getD now).toMoment else return false
  else some true

/-- A record lies in the span of time. -/
def spans (now : Timestamp) (c : Criteria) (r : Record) : Bool := (c.spans? now r).getD false

/-- A record carries the label, if one is asked for; the empty label asks for none. -/
def carries (c : Criteria) (r : Record) : Bool :=
  match c.label with
  | some label => label.isEmpty || r.labels.contains label
  | none => true

end Criteria

/-- The records that meet the criteria, in their order. -/
def Record.select (now : Timestamp) (c : Criteria) (records : List Record) : List Record :=
  records.filter fun r => c.spans now r && c.carries r

/-! ## Counts -/

/-- Labels with counts, in the order in which the labels were first seen. -/
abbrev Tally := List (String × Nat)

namespace Tally

/-- One more of a label. -/
def bump (label : String) : Tally → Tally
  | [] => [(label, 1)]
  | (l, n) :: rest => if l = label then (l, n + 1) :: rest else (l, n) :: bump label rest

/-- One more of each of a record's labels, a repeated one counted once. -/
def add (t : Tally) (r : Record) : Tally := r.labels.eraseDups.foldl (fun t label => bump label t) t

/-- How many of some records carry each label. -/
def ofRecords (records : List Record) : Tally := records.foldl add []

end Tally

/-- The percentage that a count is of a number of records. -/
def percentage (count total : Nat) : Binary64 :=
  if total = 0 then .zero false
  else (Decimal.mk (shareHundredths count total) (-2)).toBinary64 false

/-! ## Snapshots -/

/-- How many records carry a label, and the percentage that this is of all. -/
structure LabelShare where
  label : String
  count : Nat
  percentage : Binary64

/-- A summary of records. -/
structure Snapshot where
  total : Nat
  shares : List LabelShare
  updatedAt : Timestamp
  recent : List Record

namespace Snapshot

/-- The most records that a summary lists. -/
def recentLimit : Nat := 10

/-- Records from the newest to the oldest; of those of one instant the one stored last comes first. -/
def newestFirst (records : List Record) : List Record :=
  let dated := records.reverse.map fun r => (r.createdAt.instant, r)
  (dated.mergeSort fun a b => b.1 ≤ a.1).map Prod.snd

/-- Sums up records that have been selected. -/
def ofSelected (now : Timestamp) (records : List Record) : Snapshot where
  total := records.length
  shares := (Tally.ofRecords records).map fun (label, n) => ⟨label, n, percentage n records.length⟩
  updatedAt := now
  recent := (newestFirst records).take recentLimit

/-- Sums up the records that meet some criteria. -/
def ofRecords (now : Timestamp) (c : Criteria) (records : List Record) : Snapshot :=
  ofSelected now (Record.select now c records)

/-- The written form of a summary. -/
def fields (s : Snapshot) : Fields :=
  [("totalProcessed", .int s.total),
    ("labelCounts", .object (s.shares.map fun l => (l.label, .int l.count))),
    ("labelPercentages", .object (s.shares.map fun l => (l.label, .float l.percentage))),
    ("lastUpdated", .text s.updatedAt.text),
    ("recentEntries", .array (s.recent.map Record.toValue))]

end Snapshot

end RuleLabels
