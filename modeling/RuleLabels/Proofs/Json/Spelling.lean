import Mathlib.Data.List.Basic
import Mathlib.Tactic.Common
import RuleLabels.Json.Write
import RuleLabels.Proofs.Json.Numbers
import RuleLabels.Proofs.Json.Strings

/-!
# Spelled documents

A document has many texts: there may be blanks between its parts, and strings have spellings of their own.
`Spells` says which texts these are, for documents of which all numbers are integers.  All of them are read,
and as the document that they spell, unless more collections are inside each other than the reader allows.

* `Spells.value_eq`: a spelled value is read, whatever stands behind it;
* `read_of_spells`: a spelled document is read.
-/

namespace RuleLabels

namespace Json

open Text

/-! ## The grammar -/

/-- A text spells the name of a field, with what stands before and behind it up to the value. -/
inductive SpellsName : List Char → String → Prop
  | intro {a s cs b c : List Char} (ha : AllSpace a) (h : SpellsChars s cs) (hb : AllSpace b)
    (hc : AllSpace c) : SpellsName (a ++ '"' :: (s ++ '"' :: (b ++ ':' :: c))) (String.ofList cs)

mutual

/-- A text spells a value. -/
inductive Spells : List Char → Value → Prop
  | null : Spells "null".toList .null
  | true : Spells "true".toList (.bool true)
  | false : Spells "false".toList (.bool false)
  | int {i : Int} (h : i.natAbs < Value.digitBound) : Spells (toString i).toList (.int i)
  | text {s cs : List Char} (h : SpellsChars s cs) : Spells ('"' :: (s ++ ['"'])) (.text (String.ofList cs))
  | noItems {b : List Char} (hb : AllSpace b) : Spells ('[' :: (b ++ [']'])) (.array [])
  | array {s : List Char} {vs : List Value} (h : SpellsItems s vs) : Spells ('[' :: (s ++ [']'])) (.array vs)
  | noFields {b : List Char} (hb : AllSpace b) : Spells ('\x7b' :: (b ++ ['\x7d'])) (.object [])
  | object {s : List Char} {fields : Fields} (h : SpellsFields s fields)
    (hnames : (fields.map Prod.fst).Nodup) : Spells ('\x7b' :: (s ++ ['\x7d'])) (.object fields)

/-- A text spells items, with commas between them. -/
inductive SpellsItems : List Char → List Value → Prop
  | last {a s b : List Char} {v : Value} (ha : AllSpace a) (h : Spells s v) (hb : AllSpace b) :
    SpellsItems (a ++ (s ++ b)) [v]
  | cons {a s b t : List Char} {v : Value} {vs : List Value} (ha : AllSpace a) (h : Spells s v)
    (hb : AllSpace b) (hrest : SpellsItems t vs) : SpellsItems (a ++ (s ++ (b ++ ',' :: t))) (v :: vs)

/-- A text spells fields, with commas between them. -/
inductive SpellsFields : List Char → Fields → Prop
  | last {n s b : List Char} {name : String} {v : Value} (hn : SpellsName n name) (h : Spells s v)
    (hb : AllSpace b) : SpellsFields (n ++ (s ++ b)) [(name, v)]
  | cons {n s b t : List Char} {name : String} {v : Value} {fields : Fields} (hn : SpellsName n name)
    (h : Spells s v) (hb : AllSpace b) (hrest : SpellsFields t fields) :
    SpellsFields (n ++ (s ++ (b ++ ',' :: t))) ((name, v) :: fields)

end

theorem SpellsName.joinedHalves_eq {n : List Char} {name : String} (h : SpellsName n name) :
    Text.joinedHalves name = name := by
  cases h with
  | intro _ h _ _ => exact h.joinedHalves_eq

/-! ## Beginnings -/

/-- A text begins as a value does, neither with white space nor with the end of a collection nor with a byte
order mark. -/
def BeginsValue (s : List Char) : Prop :=
  ∃ c rest, s = c :: rest ∧ isSpace c = false ∧ c ≠ ']' ∧ c ≠ '\ufeff'

theorem Spells.begins {s : List Char} {v : Value} (h : Spells s v) : BeginsValue s := by
  cases h with
  | null => exact ⟨'n', _, rfl, rfl, by decide⟩
  | true => exact ⟨'t', _, rfl, rfl, by decide⟩
  | false => exact ⟨'f', _, rfl, rfl, by decide⟩
  | @int i =>
    obtain ⟨c, rest, hcons, rfl | hc⟩ := toList_toString_eq_cons i
    · exact ⟨'-', _, hcons, rfl, by decide⟩
    · refine ⟨c, rest, hcons, Bool.eq_false_iff.2 fun hspace => ?_, ?_⟩
      · rw [isSpace, Bool.or_eq_true, Bool.or_eq_true, Bool.or_eq_true, decide_eq_true_eq,
          decide_eq_true_eq, decide_eq_true_eq, decide_eq_true_eq] at hspace
        rcases hspace with ((rfl | rfl) | rfl) | rfl <;> cases hc
      · constructor <;>
          · rintro rfl
            cases hc
  | text => exact ⟨'"', _, rfl, rfl, by decide⟩
  | noItems | array => exact ⟨'[', _, rfl, rfl, by decide⟩
  | noFields | object => exact ⟨'\x7b', _, rfl, rfl, by decide⟩

theorem SpellsItems.begins {t : List Char} {vs : List Value} (h : SpellsItems t vs) :
    ∃ a s, AllSpace a ∧ t = a ++ s ∧ BeginsValue s := by
  cases h with
  | last ha h _ =>
    obtain ⟨c, rest, rfl, hc⟩ := h.begins
    exact ⟨_, _, ha, rfl, c, _, rfl, hc⟩
  | cons ha h _ _ =>
    obtain ⟨c, rest, rfl, hc⟩ := h.begins
    exact ⟨_, _, ha, rfl, c, _, rfl, hc⟩

theorem SpellsFields.begins {t : List Char} {fields : Fields} (h : SpellsFields t fields) :
    ∃ a s, AllSpace a ∧ t = a ++ '"' :: s := by
  cases h with
  | last hn _ _ =>
    cases hn with
    | intro ha _ _ _ =>
      rw [List.append_assoc]
      exact ⟨_, _, ha, rfl⟩
  | cons hn _ _ _ =>
    cases hn with
    | intro ha _ _ _ =>
      rw [List.append_assoc]
      exact ⟨_, _, ha, rfl⟩

/-! ## Fields of distinct names -/

theorem lookup_of_mem {fields : Fields} (h : (fields.map Prod.fst).Nodup) {f : String × Value}
    (hf : f ∈ fields) : fields.lookup f.1 = some f.2 := by
  obtain ⟨before, after, rfl⟩ := List.append_of_mem hf
  rw [List.lookup_eq_some_iff]
  refine ⟨before, after, rfl, fun p hp => ?_⟩
  rw [List.map_append, List.map_cons, List.nodup_append] at h
  exact bne_iff_ne.2 (h.2.2 _ (List.mem_map_of_mem hp) _ List.mem_cons_self).symm

/-- Fields that are the latest of their names, and whose names were not seen, are gathered one by one. -/
theorem foldl_gather (latest fields : Fields) (seen : List String) (done : Fields)
    (hlatest : ∀ f ∈ fields, latest.lookup f.1 = some f.2) (hnodup : (fields.map Prod.fst).Nodup)
    (hseen : ∀ f ∈ fields, f.1 ∉ seen) :
    (fields.foldl (fun (seen, done) f =>
      if seen.contains f.1 then (seen, done)
      else (f.1 :: seen, (f.1, (latest.lookup f.1).getD f.2) :: done)) (seen, done)).2 =
      fields.reverse ++ done := by
  induction fields generalizing seen done with
  | nil => rfl
  | cons f rest ih =>
    obtain ⟨hf, hlatest⟩ := List.forall_mem_cons.1 hlatest
    obtain ⟨hfresh, hseen⟩ := List.forall_mem_cons.1 hseen
    obtain ⟨hnew, hnodup⟩ := List.nodup_cons.1 hnodup
    have hcontains : ¬ seen.contains f.1 = true := fun h => hfresh (List.contains_iff_mem.1 h)
    rw [List.foldl_cons, List.reverse_cons, List.append_assoc]
    dsimp only
    rw [if_neg hcontains, hf]
    refine ih _ _ hlatest hnodup fun g hg hmem => ?_
    rcases List.mem_cons.1 hmem with hname | hmem
    · exact hnew (hname ▸ List.mem_map_of_mem hg)
    · exact hseen g hg hmem

/-- Fields of distinct names are gathered as they are. -/
theorem gather_reverse {fields : Fields} (h : (fields.map Prod.fst).Nodup) :
    gather fields.reverse = fields := by
  have hreverse : (fields.reverse.map Prod.fst).Nodup := by
    rw [List.map_reverse]
    exact (List.reverse_perm _).nodup_iff.2 h
  have hfold := foldl_gather fields.reverse fields [] []
    (fun f hf => lookup_of_mem hreverse (List.mem_reverse.2 hf)) h (fun _ _ => List.not_mem_nil)
  rw [gather, List.reverse_reverse]
  refine (congrArg List.reverse hfold).trans ?_
  rw [List.append_nil, List.reverse_reverse]

/-! ## Nesting -/

end Json

namespace Value

mutual

/-- The most collections inside each other in a value. -/
def nesting : Value → Nat
  | array items => itemsNesting items + 1
  | object fields => fieldsNesting fields + 1
  | _ => 0

/-- The most collections inside each other in the items of an array. -/
def itemsNesting : List Value → Nat
  | [] => 0
  | v :: rest => max v.nesting (itemsNesting rest)

/-- The most collections inside each other in the fields of an object. -/
def fieldsNesting : List (String × Value) → Nat
  | [] => 0
  | (_, v) :: rest => max v.nesting (fieldsNesting rest)

end

end Value

namespace Json

open Text

/-! ## Reading -/

/-- A field is read from its name on. -/
theorem SpellsName.members_step {n : List Char} {name : String} (h : SpellsName n name) {fuel room position : Nat}
    {s : List Char} (hs : BeginsValue s) {v : Value} {c : Cursor}
    (hv : value fuel room ⟨position + n.length, s⟩ = .ok (v, c)) (done : List (String × Value)) :
    members (fuel + 1) room (skip position (n ++ s)) done =
      match c.skip.rest with
      | '\x7d' :: rest => .ok (.object (gather ((name, v) :: done)), ⟨c.skip.position + 1, rest⟩)
      | ',' :: rest => members fuel room (skip (c.skip.position + 1) rest) ((name, v) :: done)
      | _ => fail .noComma c.skip.position := by
  obtain ⟨d, tail, rfl, hd, -⟩ := hs
  cases h with
  | @intro a t cs b b' ha h hb hb' =>
    have hlength : position + (a ++ '"' :: (t ++ '"' :: (b ++ ':' :: b'))).length =
        position + a.length + 1 + t.length + 1 + b.length + 1 + b'.length := by
      simp only [List.length_append, List.length_cons]
      omega
    rw [hlength] at hv
    have hstring := h.string_eq (position + a.length) (position + a.length + 1) []
      (b ++ ':' :: (b' ++ d :: tail))
    have hcolon := skip_append hb (c := ':') rfl (position + a.length + 1 + t.length + 1) (b' ++ d :: tail)
    have hblank := skip_append hb' hd (position + a.length + 1 + t.length + 1 + b.length + 1) tail
    simp only [List.append_assoc, List.cons_append]
    rw [skip_append ha rfl, members]
    simp only [hstring, Cursor.skip, hcolon, hblank, hv]
    rfl

/-- A value that begins with no quote and no collection is a word or a number. -/
theorem value_eq_scalar {c : Char} (hc : c ≠ '"' ∧ c ≠ '[' ∧ c ≠ '\x7b') (fuel room position : Nat)
    (rest : List Char) :
    value (fuel + 1) room ⟨position, c :: rest⟩ = scalar ⟨position, c :: rest⟩ := by
  rw [value.eq_def]
  dsimp only
  split
  · rename_i h
    exact absurd (List.cons.inj h).1 hc.1
  · rename_i h
    exact absurd (List.cons.inj h).1 hc.2.1
  · rename_i h
    exact absurd (List.cons.inj h).1 hc.2.2
  · rfl

theorem value_toString {i : Int} (h : i.natAbs < Value.digitBound) (fuel room position : Nat)
    {rest : List Char} (hrest : EndsValue rest) :
    value (fuel + 1) room ⟨position, (toString i).toList ++ rest⟩ =
      .ok (.int i, ⟨position + (toString i).toList.length, rest⟩) := by
  have hscalar := scalar_toString h position hrest
  obtain ⟨c, tail, hcons, hc⟩ := toList_toString_eq_cons i
  have hne : c ≠ '"' ∧ c ≠ '[' ∧ c ≠ '\x7b' := by
    rcases hc with rfl | hc
    · decide
    · refine ⟨?_, ?_, ?_⟩ <;>
        · rintro rfl
          cases hc
  rw [hcons, List.cons_append] at hscalar ⊢
  rw [value_eq_scalar hne, hscalar]

/-- The items of an array are read behind its bracket. -/
theorem value_array {t : List Char} (h : ∃ a s, AllSpace a ∧ t = a ++ s ∧ BeginsValue s)
    (fuel room position : Nat) (rest : List Char) :
    value (fuel + 1) (room + 1) ⟨position, '[' :: (t ++ ']' :: rest)⟩ =
      items fuel room (skip (position + 1) (t ++ ']' :: rest)) [] := by
  obtain ⟨a, s, ha, rfl, c, tail, rfl, hc, hne⟩ := h
  have hskip := skip_append ha hc (position + 1) (tail ++ ']' :: rest)
  rw [List.append_assoc, List.cons_append, value]
  simp only [hskip]
  split
  · rename_i h
    exact absurd (List.cons.inj h).1 hne.1
  · rfl

/-- The fields of an object are read behind its bracket. -/
theorem value_object {t : List Char} (h : ∃ a s, AllSpace a ∧ t = a ++ '"' :: s) (fuel room position : Nat)
    (rest : List Char) :
    value (fuel + 1) (room + 1) ⟨position, '\x7b' :: (t ++ '\x7d' :: rest)⟩ =
      members fuel room (skip (position + 1) (t ++ '\x7d' :: rest)) [] := by
  obtain ⟨a, s, ha, rfl⟩ := h
  have hskip := skip_append ha (c := '"') rfl (position + 1) (s ++ '\x7d' :: rest)
  rw [List.append_assoc, List.cons_append, value]
  simp only [hskip]
  rfl

/-- An item is read up to the comma or to the end of its array. -/
theorem items_step {a s : List Char} (ha : AllSpace a) (hs : BeginsValue s) {fuel room position : Nat}
    {v : Value} {c : Cursor} (hv : value fuel room ⟨position + a.length, s⟩ = .ok (v, c))
    (done : List Value) :
    items (fuel + 1) room (skip position (a ++ s)) done =
      match c.skip.rest with
      | ']' :: rest => .ok (.array (v :: done).reverse, ⟨c.skip.position + 1, rest⟩)
      | ',' :: rest => items fuel room (skip (c.skip.position + 1) rest) (v :: done)
      | _ => fail .noComma c.skip.position := by
  obtain ⟨d, tail, rfl, hd, -⟩ := hs
  rw [skip_append ha hd, items]
  generalize value fuel room ⟨position + a.length, d :: tail⟩ = r at hv ⊢
  subst hv
  rfl

theorem BeginsValue.length_pos {s : List Char} (h : BeginsValue s) : 0 < s.length := by
  obtain ⟨c, tail, rfl, -⟩ := h
  exact Nat.succ_pos _

theorem BeginsValue.append {s : List Char} (h : BeginsValue s) (rest : List Char) : BeginsValue (s ++ rest) := by
  obtain ⟨c, tail, rfl, hc⟩ := h
  exact ⟨c, tail ++ rest, rfl, hc⟩

mutual

/-- A spelled value is read, whatever stands behind it. -/
theorem Spells.value_eq : ∀ {s : List Char} {v : Value}, Spells s v → ∀ (fuel : Nat) {room : Nat}
    (position : Nat) (rest : List Char), 2 * s.length ≤ fuel + 1 → v.nesting ≤ room → EndsValue rest →
      value (fuel + 1) room ⟨position, s ++ rest⟩ = .ok (v, ⟨position + s.length, rest⟩)
  | _, _, .null, _, _, _, _, _, _, _ | _, _, .true, _, _, _, _, _, _, _
  | _, _, .false, _, _, _, _, _, _, _ => rfl
  | _, _, .int h, fuel, room, position, _, _, _, hrest => value_toString h fuel room position hrest
  | _, _, @Spells.text s cs h, _, _, position, rest, _, _, _ => by
    have hstring := h.string_eq position (position + 1) [] rest
    rw [List.cons_append, List.append_assoc, List.singleton_append, value]
    simp only [hstring, List.length_cons, List.length_append, List.length_nil]
    rw [Except.map]
    simp only [List.reverse_nil, List.nil_append, Nat.zero_add, Nat.add_assoc, Nat.add_comm 1]
  | _, _, @Spells.noItems b hb, _, 0, _, _, _, hroom, _ => absurd hroom (by simp [Value.nesting])
  | _, _, @Spells.noItems b hb, fuel, room + 1, position, rest, _, _, _ => by
    have hskip := skip_append hb (c := ']') rfl (position + 1) rest
    rw [List.cons_append, List.append_assoc, List.singleton_append, value]
    simp only [hskip, List.length_cons, List.length_append, List.length_nil]
    simp only [Nat.zero_add, Nat.add_assoc, Nat.add_comm 1]
  | _, _, .array h, _, 0, _, _, _, hroom, _ => absurd hroom (by simp [Value.nesting])
  | _, _, @Spells.array t vs h, fuel, room + 1, position, rest, hfuel, hroom, _ => by
    rw [Value.nesting, Nat.add_le_add_iff_right] at hroom
    rw [List.length_cons, List.length_append, List.length_singleton] at hfuel ⊢
    rw [List.cons_append, List.append_assoc, List.singleton_append, value_array h.begins,
      h.items_eq _ (position + 1) [] rest (by omega) hroom, List.reverse_nil, List.nil_append]
    simp only [Nat.add_assoc, Nat.add_comm 1]
  | _, _, @Spells.noFields b hb, _, 0, _, _, _, hroom, _ => absurd hroom (by simp [Value.nesting])
  | _, _, @Spells.noFields b hb, fuel, room + 1, position, rest, _, _, _ => by
    have hskip := skip_append hb (c := '\x7d') rfl (position + 1) rest
    rw [List.cons_append, List.append_assoc, List.singleton_append, value]
    simp only [hskip, List.length_cons, List.length_append, List.length_nil]
    simp only [Nat.zero_add, Nat.add_assoc, Nat.add_comm 1]
  | _, _, .object h _, _, 0, _, _, _, hroom, _ => absurd hroom (by simp [Value.nesting])
  | _, _, @Spells.object t fields h hnames, fuel, room + 1, position, rest, hfuel, hroom, _ => by
    rw [Value.nesting, Nat.add_le_add_iff_right] at hroom
    rw [List.length_cons, List.length_append, List.length_singleton] at hfuel ⊢
    rw [List.cons_append, List.append_assoc, List.singleton_append, value_object h.begins,
      h.members_eq _ (position + 1) [] rest (by omega) hroom, List.append_nil, gather_reverse hnames]
    simp only [Nat.add_assoc, Nat.add_comm 1]

/-- Spelled items are read up to the end of their array. -/
theorem SpellsItems.items_eq : ∀ {t : List Char} {vs : List Value}, SpellsItems t vs →
    ∀ (fuel : Nat) {room : Nat} (position : Nat) (done : List Value) (rest : List Char), 2 * t.length < fuel →
      Value.itemsNesting vs ≤ room →
        items fuel room (skip position (t ++ ']' :: rest)) done =
          .ok (.array (done.reverse ++ vs), ⟨position + t.length + 1, rest⟩)
  | _, _, @SpellsItems.last a s b v ha h hb, fuel + 1, room, position, done, rest, hfuel, hroom => by
    have hpos := h.begins.length_pos
    rw [List.length_append, List.length_append] at hfuel
    obtain ⟨f, rfl⟩ : ∃ f, fuel = f + 1 := ⟨fuel - 1, by omega⟩
    rw [Value.itemsNesting, Value.itemsNesting, Nat.max_le] at hroom
    have hv := h.value_eq f (position + a.length) (b ++ ']' :: rest) (by omega) hroom.1
      (.of_allSpace hb (.cons (.inr (.inl rfl)) rest))
    have hskip := skip_append hb (c := ']') rfl (position + a.length + s.length) rest
    rw [List.append_assoc, List.append_assoc, items_step ha (h.begins.append _) hv]
    simp only [Cursor.skip, hskip, List.reverse_cons]
    simp only [List.length_append, Nat.add_assoc]
  | _, _, @SpellsItems.cons a s b t v vs ha h hb hrest, fuel + 1, room, position, done, rest, hfuel,
      hroom => by
    have hpos := h.begins.length_pos
    rw [List.length_append, List.length_append, List.length_append, List.length_cons] at hfuel
    obtain ⟨f, rfl⟩ : ∃ f, fuel = f + 1 := ⟨fuel - 1, by omega⟩
    rw [Value.itemsNesting, Nat.max_le] at hroom
    have hv := h.value_eq f (position + a.length) (b ++ ',' :: (t ++ ']' :: rest)) (by omega)
      hroom.1 (.of_allSpace hb (.cons (.inl rfl) _))
    have hskip := skip_append hb (c := ',') rfl (position + a.length + s.length) (t ++ ']' :: rest)
    have hitems := hrest.items_eq (f + 1) (position + a.length + s.length + b.length + 1)
      (v :: done) rest (by omega) hroom.2
    simp only [List.append_assoc, List.cons_append]
    rw [items_step ha (h.begins.append _) hv]
    simp only [Cursor.skip, hskip, hitems, List.reverse_cons, List.append_assoc, List.singleton_append,
      List.length_append, List.length_cons]
    simp only [Nat.add_assoc, Nat.add_comm 1]

/-- Spelled fields are read up to the end of their object. -/
theorem SpellsFields.members_eq : ∀ {t : List Char} {fields : Fields}, SpellsFields t fields →
    ∀ (fuel : Nat) {room : Nat} (position : Nat) (done : List (String × Value)) (rest : List Char),
      2 * t.length < fuel → Value.fieldsNesting fields ≤ room →
        members fuel room (skip position (t ++ '\x7d' :: rest)) done =
          .ok (.object (gather (fields.reverse ++ done)), ⟨position + t.length + 1, rest⟩)
  | _, _, @SpellsFields.last n s b name v hn h hb, fuel + 1, room, position, done, rest, hfuel, hroom => by
    have hpos := h.begins.length_pos
    rw [List.length_append, List.length_append] at hfuel
    obtain ⟨f, rfl⟩ : ∃ f, fuel = f + 1 := ⟨fuel - 1, by omega⟩
    rw [Value.fieldsNesting, Value.fieldsNesting, Nat.max_le] at hroom
    have hv := h.value_eq f (position + n.length) (b ++ '\x7d' :: rest) (by omega) hroom.1
      (.of_allSpace hb (.cons (.inr (.inr rfl)) rest))
    have hskip := skip_append hb (c := '\x7d') rfl (position + n.length + s.length) rest
    rw [List.append_assoc, List.append_assoc, hn.members_step (h.begins.append _) hv]
    simp only [Cursor.skip, hskip, List.reverse_singleton, List.singleton_append]
    simp only [List.length_append, Nat.add_assoc]
  | _, _, @SpellsFields.cons n s b t name v fields hn h hb hrest, fuel + 1, room, position, done, rest,
      hfuel, hroom => by
    have hpos := h.begins.length_pos
    rw [List.length_append, List.length_append, List.length_append, List.length_cons] at hfuel
    obtain ⟨f, rfl⟩ : ∃ f, fuel = f + 1 := ⟨fuel - 1, by omega⟩
    rw [Value.fieldsNesting, Nat.max_le] at hroom
    have hv := h.value_eq f (position + n.length) (b ++ ',' :: (t ++ '\x7d' :: rest)) (by omega)
      hroom.1 (.of_allSpace hb (.cons (.inl rfl) _))
    have hskip := skip_append hb (c := ',') rfl (position + n.length + s.length) (t ++ '\x7d' :: rest)
    have hfields := hrest.members_eq (f + 1) (position + n.length + s.length + b.length + 1)
      ((name, v) :: done) rest (by omega) hroom.2
    simp only [List.append_assoc, List.cons_append]
    rw [hn.members_step (h.begins.append _) hv]
    simp only [Cursor.skip, hskip, hfields, List.reverse_cons, List.append_assoc, List.singleton_append,
      List.length_append, List.length_cons]
    simp only [Nat.add_assoc, Nat.add_comm 1]

end

/-- **A spelled document is read, with any blanks around it, if not too many collections are inside each
other.** -/
theorem read_of_spells {b s b' : List Char} {v : Value} (hb : AllSpace b) (h : Spells s v)
    (hb' : AllSpace b') (hnesting : v.nesting ≤ maxDepth) :
    read (String.ofList (b ++ (s ++ b'))) = .ok v := by
  obtain ⟨c, tail, hcons, hc, -, hmark⟩ := h.begins
  have hhead : (b ++ (s ++ b')).head? ≠ some '\ufeff' := by
    intro hhead
    cases b with
    | nil =>
      rw [hcons] at hhead
      exact hmark (Option.some.inj hhead)
    | cons d b =>
      have hd := hb d List.mem_cons_self
      rw [Option.some.inj hhead] at hd
      exact absurd hd (by decide)
  have hskip : skip 0 (b ++ (s ++ b')) = ⟨b.length, s ++ b'⟩ := by
    rw [hcons, List.cons_append, skip_append hb hc, Nat.zero_add]
  have hends : EndsValue b' := by
    have := EndsValue.of_allSpace hb' (s := []) nofun
    rwa [List.append_nil] at this
  have hvalue := h.value_eq (2 * (b ++ (s ++ b')).length + 1) b.length b'
    (by simp only [List.length_append]; omega) hnesting hends
  rw [read, String.toList_ofList]
  dsimp only
  rw [if_neg hhead, hskip, hvalue]
  simp only [Cursor.skip, skip_end hb', List.isEmpty_nil]
  rfl

/-! ## Halves -/

mutual

/-- What is spelled has no two halves of one character that follow each other. -/
theorem Spells.joinedHalves_eq : ∀ {s : List Char} {v : Value}, Spells s v → joinedHalves v = v
  | _, _, .null | _, _, .true | _, _, .false | _, _, .int _ | _, _, .noItems _ | _, _, .noFields _ => rfl
  | _, _, .text h => by rw [joinedHalves, h.joinedHalves_eq]
  | _, _, .array h => by rw [joinedHalves, h.joinedItems_eq]
  | _, _, .object h _ => by rw [joinedHalves, h.joinedFields_eq]

theorem SpellsItems.joinedItems_eq : ∀ {t : List Char} {vs : List Value}, SpellsItems t vs →
    joinedItems vs = vs
  | _, _, .last _ h _ => by rw [joinedItems, h.joinedHalves_eq, joinedItems]
  | _, _, .cons _ h _ hrest => by rw [joinedItems, h.joinedHalves_eq, hrest.joinedItems_eq]

theorem SpellsFields.joinedFields_eq : ∀ {t : List Char} {fields : Fields}, SpellsFields t fields →
    joinedFields fields = fields
  | _, _, .last hn h _ => by rw [joinedFields, hn.joinedHalves_eq, h.joinedHalves_eq, joinedFields]
  | _, _, .cons hn h _ hrest => by
    rw [joinedFields, hn.joinedHalves_eq, h.joinedHalves_eq, hrest.joinedFields_eq]

end

end Json

end RuleLabels
