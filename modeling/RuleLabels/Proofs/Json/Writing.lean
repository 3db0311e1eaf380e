import Mathlib.Tactic.Common
import RuleLabels.Proofs.Json.Plain
import RuleLabels.Proofs.Json.Spelling

/-!
# Written documents are spelled

Documents of whole texts and short integers, in which no object has a name twice, are spelled by their texts,
whether these are on one line, with or without blanks, or indented.  So they are read back from them.

* `spells_written`: the text of a document spells it;
* `read_written`: a document is read back from its text.
-/

namespace RuleLabels

open Json Text

/-! ## Exact values -/

namespace Value

mutual

/-- A value of which the text gives nothing else back: whole texts, short integers, and collections of exact
values, with different names in an object. -/
def isExact : Value → Bool
  | null | bool _ => true
  | int i => i.natAbs < digitBound
  | text s => isWhole s
  | array items => itemsAreExact items
  | object fields => fieldsAreExact fields && decide (fields.map Prod.fst).Nodup
  | _ => false

/-- All items of an array are exact. -/
def itemsAreExact : List Value → Bool
  | [] => true
  | v :: rest => v.isExact && itemsAreExact rest

/-- All fields of an object have whole names and exact values. -/
def fieldsAreExact : List (String × Value) → Bool
  | [] => true
  | (k, v) :: rest => isWhole k && v.isExact && fieldsAreExact rest

end

theorem itemsAreExact_iff {items : List Value} :
    itemsAreExact items = true ↔ ∀ v ∈ items, v.isExact = true := by
  induction items with
  | nil => simp [itemsAreExact]
  | cons v rest ih => rw [itemsAreExact, Bool.and_eq_true, ih, List.forall_mem_cons]

end Value

namespace Json

/-! ## Strings -/

/-- The number of a control character is written with four digits. -/
theorem isHex4_padded {n : Nat} (hn : n < 0x20) : IsHex4 (padded 16 4 n) n := by
  have hall : ∀ n < 0x20, (padded 16 4 n).map hexDigit? = [some 0, some 0, some (n / 16), some (n % 16)] := by
    decide
  have hdigits := hall n hn
  have hlength := congrArg List.length hdigits
  rw [List.length_map] at hlength
  refine ⟨hlength, fun e rest => ?_⟩
  match hpadded : padded 16 4 n, hlength with
  | [a, b, c, d], _ =>
    rw [hpadded] at hdigits
    simp only [List.map_cons, List.cons.injEq] at hdigits
    obtain ⟨ha, hb, hc, hd, -⟩ := hdigits
    simp only [List.cons_append, List.nil_append, hex4?, ha, hb, hc, hd, Option.bind_eq_bind, Option.bind_some,
      Option.pure_def, Option.some.injEq]
    omega

theorem character_toNat {c : Char} (hc : c.toNat < 0x20) : character c.toNat = c := by
  have hhalf : ¬ isHalfCode c.toNat = true := by
    rw [isHalfCode, Bool.and_eq_true, decide_eq_true_eq, decide_eq_true_eq]
    omega
  rw [character, if_neg hhalf, Char.ofNat_toNat]

/-- A character of a whole text is spelled as it is written. -/
theorem spellsChars_writtenChar {c : Char} (hc : isHalf c = false) {s cs : List Char}
    (h : SpellsChars s cs) : SpellsChars (writtenChar c ++ s) (c :: cs) := by
  rw [writtenChar]
  -- Seven characters have an escape of one letter.
  iterate 7
    split
    · rename_i he
      subst he
      exact .letter rfl h
  split
  · rename_i hcontrol
    have hlone : isHighHalf c.toNat = true → ¬ BeginsLowHalf s := by
      intro hhigh
      rw [isHighHalf, Bool.and_eq_true, decide_eq_true_eq, decide_eq_true_eq] at hhigh
      omega
    have hnumber := SpellsChars.number (isHex4_padded hcontrol) hlone h
    rwa [character_toNat hcontrol] at hnumber
  · rename_i hquote hescape _ _ _ _ _ hcontrol
    exact .plain hquote hescape (Nat.not_lt.1 hcontrol) hc h

theorem spellsChars_flatMap {cs : List Char} (h : ∀ c ∈ cs, isHalf c = false) :
    SpellsChars (cs.flatMap writtenChar) cs := by
  induction cs with
  | nil => exact .nil
  | cons c rest ih =>
    obtain ⟨hc, hrest⟩ := List.forall_mem_cons.1 h
    exact spellsChars_writtenChar hc (ih hrest)

theorem not_isHalf_of_isWhole {s : String} (h : isWhole s = true) : ∀ c ∈ s.toList, isHalf c = false := by
  intro c hc
  rw [isWhole, List.all_eq_true] at h
  exact Bool.not_eq_true' _ ▸ h c hc

theorem toList_writtenString (s : String) :
    (writtenString s).toList = '"' :: (s.toList.flatMap writtenChar ++ ['"']) := by
  rw [writtenString, String.toList_append, String.toList_append]
  exact congrArg (fun cs => '"' :: (cs ++ ['"'])) String.toList_ofList

theorem spells_writtenString {s : String} (h : isWhole s = true) :
    Spells (writtenString s).toList (.text s) := by
  have hspells := Spells.text (spellsChars_flatMap (not_isHalf_of_isWhole h))
  rwa [String.ofList_toList, ← toList_writtenString] at hspells

theorem spellsName_writtenString {s : String} (h : isWhole s = true) {colon : String} {b c : List Char}
    (hcolon : colon.toList = b ++ ':' :: c) (hb : AllSpace b) (hc : AllSpace c) {a : List Char}
    (ha : AllSpace a) : SpellsName (a ++ (writtenString s ++ colon).toList) s := by
  have hname := SpellsName.intro ha (spellsChars_flatMap (not_isHalf_of_isWhole h)) hb hc
  rw [String.ofList_toList] at hname
  rwa [String.toList_append, toList_writtenString, hcolon, List.cons_append, List.append_assoc,
    List.singleton_append]

/-! ## Layouts -/

/-- A layout has nothing but white space around commas and colons and beside brackets. -/
structure Layout.IsBlank (l : Layout) : Prop where
  opening : ∀ depth, AllSpace (l.opening depth).toList
  separator : ∀ depth, ∃ b c, (l.separator depth).toList = b ++ ',' :: c ∧ AllSpace b ∧ AllSpace c
  closing : ∀ depth, AllSpace (l.closing depth).toList
  colon : ∃ b c, l.colon.toList = b ++ ':' :: c ∧ AllSpace b ∧ AllSpace c

theorem allSpace_nil : AllSpace [] := nofun

theorem allSpace_blank : AllSpace [' '] := by
  intro c hc
  rw [List.mem_singleton.1 hc]
  rfl

theorem allSpace_indentation (depth : Nat) : AllSpace (indentation depth).toList := by
  intro c hc
  rw [indentation, String.toList_append, List.mem_append] at hc
  rcases hc with hc | hc
  · obtain rfl : c = '\n' := List.mem_singleton.1 hc
    rfl
  · rw [String.toList_ofList] at hc
    obtain rfl := List.eq_of_mem_replicate hc
    rfl

theorem Layout.isBlank_indented : indented.IsBlank where
  opening depth := allSpace_indentation (depth + 1)
  separator depth := ⟨[], _, String.toList_append, allSpace_nil, allSpace_indentation (depth + 1)⟩
  closing := allSpace_indentation
  colon := ⟨[], [' '], by decide, allSpace_nil, allSpace_blank⟩

/-! ## Values -/

section

variable {l : Layout} (hl : l.IsBlank)

/-- Items between brackets, with what stands beside these. -/
theorem toList_enclosed {items : List String} (h : items ≠ []) (depth : Nat) (left right : String) :
    (enclosed l depth left right items).toList =
      left.toList ++ ((l.opening depth).toList ++ ((l.separator depth).toList.intercalate
        (items.map String.toList) ++ (l.closing depth).toList) ++ right.toList) := by
  rw [enclosed, List.isEmpty_eq_false_iff.2 h]
  simp only [Bool.false_eq_true, if_false, String.toList_append, String.toList_intercalate,
    List.append_assoc]

include hl

mutual

/-- The text of an exact value spells it. -/
theorem spells_written : ∀ (depth : Nat) {v : Value}, v.isExact = true → Spells (written l depth v).toList v
  | _, .null, _ => .null
  | _, .bool true, _ => .true
  | _, .bool false, _ => .false
  | _, .int i, h => by
    rw [Value.isExact, decide_eq_true_eq] at h
    exact .int h
  | _, .text s, h => spells_writtenString h
  | depth, .array vs, h => by
    rw [written]
    cases vs with
    | nil =>
      have hnone : (enclosed l depth "[" "]" []).toList = ['[', ']'] := by
        rw [enclosed, List.isEmpty_nil, if_pos rfl]
        decide
      rw [writtenItems, hnone]
      exact .noItems allSpace_nil
    | cons v rest =>
      have hitems := spellsItems_written (depth + 1) depth (List.cons_ne_nil v rest) h (hl.opening depth)
        (hl.closing depth)
      rw [toList_enclosed (by rw [writtenItems]; exact List.cons_ne_nil _ _)]
      exact .array hitems
  | depth, .object fields, h => by
    rw [Value.isExact, Bool.and_eq_true, decide_eq_true_eq] at h
    rw [written]
    cases fields with
    | nil =>
      have hnone : (enclosed l depth "\x7b" "\x7d" []).toList = ['\x7b', '\x7d'] := by
        rw [enclosed, List.isEmpty_nil, if_pos rfl]
        decide
      rw [writtenFields, hnone]
      exact .noFields allSpace_nil
    | cons f rest =>
      have hfields := spellsFields_written (depth + 1) depth (List.cons_ne_nil f rest) h.1
        (hl.opening depth) (hl.closing depth)
      rw [toList_enclosed (by rw [writtenFields]; exact List.cons_ne_nil _ _)]
      exact .object hfields h.2
  | _, .float _, h | _, .moment _, h | _, .date _, h | _, .bytes _, h | _, .tuple _, h | _, .set _, h
  | _, .mapping _, h | _, .looped _ _, h => nomatch h

/-- The texts of items, with commas between them, spell these. -/
theorem spellsItems_written : ∀ (depth outer : Nat) {vs : List Value}, vs ≠ [] →
    Value.itemsAreExact vs = true → ∀ {a b : List Char}, AllSpace a → AllSpace b →
      SpellsItems (a ++ ((l.separator outer).toList.intercalate
        ((writtenItems l depth vs).map String.toList) ++ b)) vs
  | _, _, [], hne, _, _, _, _, _ => absurd rfl hne
  | depth, outer, [v], _, h, a, b, ha, hb => by
    rw [Value.itemsAreExact, Bool.and_eq_true] at h
    rw [writtenItems, writtenItems, List.map_singleton, List.intercalate_singleton]
    exact .last ha (spells_written depth h.1) hb
  | depth, outer, v :: w :: rest, _, h, a, b, ha, hb => by
    rw [Value.itemsAreExact, Bool.and_eq_true] at h
    obtain ⟨c, d, hseparator, hc, hd⟩ := hl.separator outer
    have hrest := spellsItems_written depth outer (List.cons_ne_nil w rest) h.2 hd hb
    have hitems := SpellsItems.cons ha (spells_written depth h.1) hc hrest
    simp only [writtenItems, List.map_cons, List.intercalate_cons_cons, hseparator, List.append_assoc,
      List.cons_append] at hitems ⊢
    exact hitems

/-- The texts of fields, with commas between them, spell these. -/
theorem spellsFields_written : ∀ (depth outer : Nat) {fields : List (String × Value)}, fields ≠ [] →
    Value.fieldsAreExact fields = true → ∀ {a b : List Char}, AllSpace a → AllSpace b →
      SpellsFields (a ++ ((l.separator outer).toList.intercalate
        ((writtenFields l depth fields).map String.toList) ++ b)) fields
  | _, _, [], hne, _, _, _, _, _ => absurd rfl hne
  | depth, outer, [(k, v)], _, h, a, b, ha, hb => by
    rw [Value.fieldsAreExact, Bool.and_eq_true, Bool.and_eq_true] at h
    obtain ⟨c, d, hcolon, hc, hd⟩ := hl.colon
    have hname := spellsName_writtenString h.1.1 hcolon hc hd ha
    have hfields := SpellsFields.last hname (spells_written depth h.1.2) hb
    simp only [writtenFields, List.map_singleton, List.intercalate_singleton, String.toList_append,
      List.append_assoc] at hfields ⊢
    exact hfields
  | depth, outer, (k, v) :: (k', w) :: rest, _, h, a, b, ha, hb => by
    rw [Value.fieldsAreExact, Bool.and_eq_true, Bool.and_eq_true] at h
    obtain ⟨c, d, hcolon, hc, hd⟩ := hl.colon
    obtain ⟨c', d', hseparator, hc', hd'⟩ := hl.separator outer
    have hname := spellsName_writtenString h.1.1 hcolon hc hd ha
    have hrest := spellsFields_written depth outer (List.cons_ne_nil (k', w) rest) h.2 hd' hb
    have hfields := SpellsFields.cons hname (spells_written depth h.1.2) hc' hrest
    simp only [writtenFields, List.map_cons, List.intercalate_cons_cons, hseparator, String.toList_append,
      List.append_assoc, List.cons_append] at hfields ⊢
    exact hfields

end

/-- **An exact value is read back from its text**, unless too many collections are inside each other. -/
theorem read_written {v : Value} (h : v.isExact = true) (hnesting : v.nesting ≤ maxDepth) :
    read (written l 0 v) = .ok v := by
  have hread := read_of_spells allSpace_nil (spells_written hl 0 h) allSpace_nil hnesting
  rwa [List.append_nil, List.nil_append, String.ofList_toList] at hread

end

end Json

end RuleLabels
