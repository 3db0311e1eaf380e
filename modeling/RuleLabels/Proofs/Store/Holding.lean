import Mathlib.Tactic.Common
import RuleLabels.Proofs.Rule.Edit
import RuleLabels.Proofs.Store.Stocks

/-!
# What stores hold

A sound stock is one that every kind of store can keep.  A store that holds a sound stock gives it, and takes
any other sound stock in its place.

* `Store.run_rules` and `Store.run_records`: a store gives what it holds, and nothing changes;
* `Store.run_saveRules` and `Store.run_append`: what a store takes is what it holds from then on.
-/

namespace RuleLabels

/-! ## Sound stocks -/

/-- A stock that every kind of store can keep: its rules are orderly, its texts are whole, and its records
have different identifiers. -/
structure Stock.IsSound (k : Stock) : Prop where
  orderly : Rule.AreOrderly k.rules
  plain : ∀ r ∈ k.rules, r.IsPlain
  plainRecords : ∀ r ∈ k.records, r.IsPlain
  distinctRecords : (k.records.map Record.id).Nodup

theorem Stock.IsSound.of_rules {k : Stock} (h : k.IsSound) {rules : List Rule} (ho : Rule.AreOrderly rules)
    (hp : ∀ r ∈ rules, r.IsPlain) : Stock.IsSound ⟨rules, k.records⟩ :=
  ⟨ho, hp, h.plainRecords, h.distinctRecords⟩

/-! ## Folders -/

namespace FolderStore

/-- A folder holds a stock that it stores, in documents of any depth. -/
structure Holds (s : FolderStore) (since : Nat) (fs : Files) (k : Stock) : Prop where
  unbounded : s.maxDepth = none
  stores : s.Stores since fs k

variable {s : FolderStore} {since : Nat} {w : World} {k : Stock}

theorem run_rules (h : s.Stores since w.files k) (hk : Rule.AreOrderly k.rules) :
    ExceptT.run s.rules w = (.ok k.rules, w) := by
  obtain ⟨n, m, -, -, -, hrules, -⟩ := h
  rw [rules, Action.run_bind_ok (run_readDocument hrules), Action.run_bind_ok (Action.run_now w)]
  simp only [Rule.readAll_rulesDocument hk.valid hk.distinct]
  rfl

/-- A document that is not refused may take the place of another. -/
theorem run_writeDocument_of_find {l : Location} {number : Nat} {c : Content} {v : Value}
    (hr : Json.refusal? (.file s.maxDepth) v = none) (h : w.files.find l = .ok (.file number c)) :
    ∃ w', ExceptT.run (s.writeDocument l v) w = (.ok (), w') := by
  obtain ⟨key, hk, he⟩ := Files.find_eq_ok_iff.1 h
  obtain ⟨fs, hwrite, -⟩ := run_writeDocument_ok hr hk (by simp [he])
  exact ⟨_, hwrite⟩

theorem run_saveRules (h : s.Holds since w.files k) {rules : List Rule}
    (hk : Stock.IsSound ⟨rules, k.records⟩) :
    ∃ w', ExceptT.run (s.saveRules rules) w = (.ok (), w') ∧ s.Holds since w'.files ⟨rules, k.records⟩ ∧
      w.Keeps since w' := by
  have hrefusal : Json.refusal? (.file s.maxDepth) (rulesDocument rules) = none := by
    rw [h.unbounded]
    exact refusal?_rulesDocument hk.plain
  obtain ⟨n, m, hn, hm, hne, hrules, hrecords⟩ := h.stores
  obtain ⟨w', hwrite⟩ := run_writeDocument_of_find hrefusal hrules
  have hsave : ExceptT.run (s.saveRules rules) w = _ :=
    (Action.run_bind_ok hwrite).trans (Action.run_log _ _ _ w')
  obtain ⟨hstores, hkeeps⟩ := stores_of_saveRules h.stores hsave
  exact ⟨_, hsave, ⟨h.unbounded, hstores⟩, hkeeps⟩

theorem run_append (h : s.Holds since w.files k) {r : Record}
    (hk : Stock.IsSound ⟨k.rules, k.records ++ [r]⟩) :
    ∃ w', ExceptT.run (s.append r) w = (.ok (), w') ∧
      s.Holds since w'.files ⟨k.rules, k.records ++ [r]⟩ ∧ w.Keeps since w' := by
  have hrefusal : Json.refusal? (.file s.maxDepth) (.array (k.records.map Record.toValue ++ [r.toValue])) =
      none := by
    have := refusal?_records hk.plainRecords
    rw [List.map_append] at this
    rw [h.unbounded]
    exact this
  obtain ⟨n, m, hn, hm, hne, hrules, hrecords⟩ := h.stores
  obtain ⟨w', hwrite⟩ := run_writeDocument_of_find hrefusal hrecords
  have happend : ExceptT.run (s.append r) w = (.ok (), w') :=
    (Action.run_bind_ok (run_recordItems h.stores)).trans hwrite
  obtain ⟨hstores, hkeeps⟩ := stores_of_append h.stores happend
  exact ⟨w', happend, ⟨h.unbounded, hstores⟩, hkeeps⟩

end FolderStore

/-! ## Databases -/

namespace DatabaseStore

/-- A database holds a stock that it stores, in documents of any depth. -/
structure Holds (s : DatabaseStore) (since : Nat) (fs : Files) (k : Stock) : Prop where
  unbounded : s.maxDepth = none
  stores : s.Stores since fs k

variable {s : DatabaseStore} {since : Nat} {w : World} {k : Stock}

theorem run_checkWritable (h : s.Stores since w.files k) : ExceptT.run s.checkWritable w = (.ok (), w) := by
  have hwrites : s.writes = true ∧ s.inPlace w.files = true := by
    obtain ⟨url, place, maxDepth⟩ := s
    cases place with
    | file l number writes =>
      obtain ⟨hwrites, -, hfind⟩ := h
      exact ⟨hwrites, by simp only [inPlace, Files.numberAt?_of_find hfind, decide_true]⟩
    | _ => exact ⟨rfl, rfl⟩
  rw [checkWritable, Action.run_bind_ok (Action.run_get w), hwrites.1, hwrites.2]
  rfl

/-- The tables of another stock may be put in the place of those that are there. -/
theorem run_setTables (h : s.Stores since w.files k) (t : Tables) :
    ∃ s' w', ExceptT.run (s.setTables t) w = (.ok s', w') ∧ s'.maxDepth = s.maxDepth := by
  obtain ⟨url, place, maxDepth⟩ := s
  cases place with
  | memory separate t' => exact ⟨_, w, rfl, rfl⟩
  | bare => exact h.elim
  | file l number writes =>
    obtain ⟨hwrites, hsince, hfind⟩ := h
    obtain ⟨w', hwrite, -⟩ := Action.run_write hfind hsince (.tables t)
    exact ⟨_, w', Action.run_bind_ok hwrite, rfl⟩

theorem run_rules (h : s.Stores since w.files k) (hk : Rule.AreOrderly k.rules) :
    ExceptT.run s.rules w = (.ok (k.rules.map Rule.joined), w) := by
  rw [rules, Action.run_bind_ok (run_tables h)]
  simp only [Stock.tables, RuleRow.toRules_sorted fun r hr => (hk.valid r hr).hasGroup]
  rfl

theorem run_records (h : s.Stores since w.files k) :
    ExceptT.run s.records w = (.ok (k.records.map Record.joined), w) := by
  rw [records, Action.run_bind_ok (run_tables h)]
  simp only [Stock.tables, RecordRow.toRecords_ofRecord]
  rfl

theorem run_saveRules (h : s.Holds since w.files k) {rules : List Rule}
    (hk : Stock.IsSound ⟨rules, k.records⟩) :
    ∃ s' w', ExceptT.run (s.saveRules rules) w = (.ok s', w') ∧
      s'.Holds since w'.files ⟨rules, k.records⟩ ∧ w.Keeps since w' := by
  have hchange : Tables.replaceRules s.maxDepth rules k.tables = .ok (Stock.tables ⟨rules, k.records⟩) := by
    rw [h.unbounded]
    exact Tables.replaceRules_of_isPlain hk.plain hk.orderly.distinct _
  obtain ⟨s', w₁, hset, hdepth⟩ := run_setTables h.stores (Stock.tables ⟨rules, k.records⟩)
  have hsave : ExceptT.run (s.saveRules rules) w =
      (.ok s', { w₁ with log := w₁.log.send ⟨.debug, sender, s!"saved {rules.length} rules"⟩ }) := by
    have htransact : ExceptT.run (s.transact (Tables.replaceRules s.maxDepth rules)) w = (.ok s', w₁) := by
      rw [transact, Action.run_bind_ok (run_tables h.stores), Action.run_bind_ok (run_checkWritable h.stores),
        hchange]
      exact hset
    rw [saveRules, Action.run_bind_ok htransact, Action.run_bind_ok (Action.run_log _ _ _ w₁)]
    rfl
  obtain ⟨hstores, hkeeps⟩ := stores_of_saveRules h.stores hsave
  exact ⟨s', _, hsave, ⟨hdepth.trans h.unbounded, hstores⟩, hkeeps⟩

theorem run_append (h : s.Holds since w.files k) {r : Record}
    (hk : Stock.IsSound ⟨k.rules, k.records ++ [r]⟩) :
    ∃ s' w', ExceptT.run (s.append r) w = (.ok s', w') ∧
      s'.Holds since w'.files ⟨k.rules, k.records ++ [r]⟩ ∧ w.Keeps since w' := by
  have hplain := hk.plainRecords r (List.mem_append_right _ (List.mem_singleton_self r))
  have hpayload : Json.refusal? (.column none) (.object r.payload) = none :=
    Value.refusal?_of_isJson rfl hplain.payload
  have hnew : (k.records.map RecordRow.ofRecord).any (·.id = r.id) = false := by
    rw [List.any_eq_false]
    intro row hrow
    obtain ⟨other, hother, rfl⟩ := List.mem_map.1 hrow
    have hdistinct := hk.distinctRecords
    rw [List.map_append, List.nodup_append] at hdistinct
    have hne : other.id ≠ r.id := hdistinct.2.2 other.id (List.mem_map_of_mem hother) r.id (by simp)
    rw [Bool.not_eq_true]
    exact decide_eq_false hne
  obtain ⟨s', w', hset, hdepth⟩ := run_setTables h.stores (withRecord k.tables r)
  have happend : ExceptT.run (s.append r) w = (.ok s', w') := by
    rw [append, h.unbounded]
    simp only [hpayload, Text.encodeError?_of_isWhole hplain.id]
    rw [Action.run_bind_ok (run_tables h.stores)]
    simp only [Stock.tables, hnew, Bool.and_false]
    exact (Action.run_bind_ok (run_checkWritable h.stores)).trans hset
  obtain ⟨hstores, hkeeps⟩ := stores_of_append h.stores happend
  exact ⟨s', w', happend, ⟨hdepth.trans h.unbounded, hstores⟩, hkeeps⟩

end DatabaseStore

/-! ## Stores -/

namespace Store

/-- A store holds a stock, in files with numbers from a bound on if it has files. -/
def Holds (since : Nat) (fs : Files) (k : Stock) : Store → Prop
  | memory rules records => rules = k.rules ∧ records = k.records
  | folder s => s.Holds since fs k
  | database s => s.Holds since fs k

variable {s : Store} {since : Nat} {w : World} {k : Stock}

/-- A store gives the rules that it holds. -/
theorem run_rules (h : s.Holds since w.files k) (hk : k.IsSound) :
    ExceptT.run s.rules w = (.ok k.rules, w) := by
  cases s with
  | memory rules records =>
    obtain ⟨rfl, -⟩ := h
    rfl
  | folder s => exact FolderStore.run_rules h.stores hk.orderly
  | database s =>
    have hrun := DatabaseStore.run_rules h.stores hk.orderly
    rwa [Rule.map_joined_of_isPlain hk.orderly.valid hk.plain] at hrun

/-- A store gives the records that it holds. -/
theorem run_records (h : s.Holds since w.files k) (hk : k.IsSound) :
    ExceptT.run s.records w = (.ok k.records, w) := by
  cases s with
  | memory rules records =>
    obtain ⟨-, rfl⟩ := h
    rfl
  | folder s => exact FolderStore.run_records h.stores
  | database s =>
    have hrun := DatabaseStore.run_records h.stores
    rwa [Record.map_joined_of_isPlain hk.plainRecords] at hrun

/-- A store takes rules if the stock is sound with them. -/
theorem run_saveRules (h : s.Holds since w.files k) {rules : List Rule}
    (hk : Stock.IsSound ⟨rules, k.records⟩) :
    ∃ s' w', ExceptT.run (s.saveRules rules) w = (.ok s', w') ∧
      s'.Holds since w'.files ⟨rules, k.records⟩ ∧ w.Keeps since w' := by
  cases s with
  | memory rules' records =>
    obtain ⟨-, rfl⟩ := h
    exact ⟨_, w, rfl, ⟨rfl, rfl⟩, .refl since w⟩
  | folder s =>
    obtain ⟨w', hsave, hholds, hkeeps⟩ := FolderStore.run_saveRules h hk
    exact ⟨folder s, w', Action.run_bind_ok hsave, hholds, hkeeps⟩
  | database s =>
    obtain ⟨s', w', hsave, hholds, hkeeps⟩ := DatabaseStore.run_saveRules h hk
    exact ⟨database s', w', Action.run_bind_ok hsave, hholds, hkeeps⟩

/-- A store takes a record if the stock is sound with it. -/
theorem run_append (h : s.Holds since w.files k) {r : Record}
    (hk : Stock.IsSound ⟨k.rules, k.records ++ [r]⟩) :
    ∃ s' w', ExceptT.run (s.append r) w = (.ok s', w') ∧
      s'.Holds since w'.files ⟨k.rules, k.records ++ [r]⟩ ∧ w.Keeps since w' := by
  cases s with
  | memory rules records =>
    obtain ⟨rfl, rfl⟩ := h
    exact ⟨_, w, rfl, ⟨rfl, rfl⟩, .refl since w⟩
  | folder s =>
    obtain ⟨w', happend, hholds, hkeeps⟩ := FolderStore.run_append h hk
    exact ⟨folder s, w', Action.run_bind_ok happend, hholds, hkeeps⟩
  | database s =>
    obtain ⟨s', w', happend, hholds, hkeeps⟩ := DatabaseStore.run_append h hk
    exact ⟨database s', w', Action.run_bind_ok happend, hholds, hkeeps⟩

end Store

end RuleLabels
