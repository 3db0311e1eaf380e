import Mathlib.Tactic.Common
import RuleLabels.Proofs.Http.Listing
import RuleLabels.Proofs.Text.Percent

/-!
# Paths of rules

A rule is asked for by its identifier, which is percent-encoded as one part of a path.  Paths are compared when
they are decoded, so an identifier is found in its place again just if there is no slash in it: with one in it,
no request asks for anything about this rule.

* `Place.ofPath?_rule` and `Place.ofPath?_toggle`: the places of a rule and of its switch;
* `Visit.sendsTo_of_path` and `Visit.SendsTo.asks`: what is sent to a path, and what it asks for;
* `Visit.isSegment_of_asks`: rules with other identifiers are never asked for.
-/

namespace RuleLabels

/-! ## Parts of texts -/

namespace Text

variable {mark : Char} {s : List Char}

theorem splitAt_of_not_mem (h : mark ∉ s) : splitAt mark s = [s] := by
  induction s with
  | nil => rfl
  | cons c rest ih =>
    rw [List.mem_cons, not_or] at h
    rw [splitAt, if_neg (Ne.symm h.1), ih h.2]

/-- What stands before the first mark is the first part. -/
theorem splitAt_append (h : mark ∉ s) (rest : List Char) :
    splitAt mark (s ++ mark :: rest) = s :: splitAt mark rest := by
  induction s with
  | nil => rw [List.nil_append, splitAt, if_pos rfl]
  | cons c s ih =>
    rw [List.mem_cons, not_or] at h
    rw [List.cons_append, splitAt, if_neg (Ne.symm h.1), ih h.2]

/-- No part holds a mark. -/
theorem not_mem_of_mem_splitAt {part : List Char} (h : part ∈ splitAt mark s) : mark ∉ part := by
  induction s generalizing part with
  | nil =>
    rw [List.mem_singleton.1 h]
    exact List.not_mem_nil
  | cons c rest ih =>
    rw [splitAt] at h
    split at h
    · rcases List.mem_cons.1 h with rfl | h
      · exact List.not_mem_nil
      · exact ih h
    · rename_i hc
      split at h
      · rename_i first parts hparts
        rw [hparts] at ih
        rcases List.mem_cons.1 h with rfl | h
        · rw [List.mem_cons, not_or]
          exact ⟨Ne.symm hc, ih List.mem_cons_self⟩
        · exact ih (List.mem_cons_of_mem _ h)
      · rw [List.mem_singleton.1 h, List.mem_singleton]
        exact Ne.symm hc

end Text

namespace Http

/-! ## Encoded paths -/

/-- The path behind which the rules are. -/
def rulesPath : String := "/api/rules/"

/-- The path of the rule with an identifier. -/
def rulePath (id : String) : String := rulesPath ++ Text.percentEncode [] id

/-- The path of the switch of the rule with an identifier. -/
def switchPath (id : String) : String := rulePath id ++ "/toggle"

/-- An identifier is one part of a path: it is not empty, and there is no slash in it. -/
def IsSegment (id : String) : Prop := id ≠ "" ∧ '/' ∉ id.toList

theorem percentDecode_rulePath (id : String) : Text.percentDecode (rulePath id) = rulesPath ++ id :=
  Text.percentDecode_append_percentEncode (by decide) (by simp) id

theorem percentDecode_switchPath (id : String) :
    Text.percentDecode (switchPath id) = rulesPath ++ id ++ "/toggle" :=
  Text.percentDecode_between (by decide) (by decide) (by simp) id

/-! ## Places -/

/-- The identifier that a place is about. -/
def Place.id? : Place → Option String
  | .rule id | .toggle id => some id
  | _ => none

/-- The identifier that an operation is about. -/
def Endpoint.id? : Endpoint → Option String
  | .readRule id | .updateRule id | .deleteRule id | .toggleRule id => some id
  | _ => none

namespace Place

theorem id?_of_endpoint? {method : String} {place : Place} {e : Endpoint}
    (h : place.endpoint? method = some e) : e.id? = place.id? := by
  cases place with
  | document =>
    rw [endpoint?] at h
    split at h
    · cases h
      rfl
    · cases h
  | _ =>
    simp only [endpoint?] at h
    repeat' split at h
    all_goals cases h
    all_goals rfl

/-- The line feed at the end of a path is not in its front. -/
theorem exists_withoutFinalNewline (rest : String) :
    ∃ rest', withoutFinalNewline (rulesPath ++ rest) = rulesPath ++ rest' := by
  rw [withoutFinalNewline]
  split
  · rename_i hlast
    rw [String.toList_append] at hlast ⊢
    have hne : rest.toList ≠ [] := by
      intro hnil
      rw [hnil, List.append_nil] at hlast
      exact absurd hlast (by decide)
    refine ⟨String.ofList rest.toList.dropLast, ?_⟩
    rw [List.dropLast_append_of_ne_nil hne, String.ofList_append, String.ofList_toList]
  · exact ⟨rest, rfl⟩

/-- Below the path of the rules there is no path without parameters. -/
theorem lookup_fixed_below (rest : String) : fixed.lookup (withoutFinalNewline (rulesPath ++ rest)) = none := by
  obtain ⟨rest', heq⟩ := exists_withoutFinalNewline rest
  have hkeys : ∀ p ∈ fixed, rulesPath.toList.isPrefixOf p.1.toList = false := by decide
  rw [heq, List.lookup_eq_none_iff]
  intro p hp
  rw [bne_iff_ne]
  intro hkey
  have hnone := hkeys p hp
  rw [← hkey, String.toList_append, Bool.eq_false_iff, ne_eq, List.isPrefixOf_iff_prefix] at hnone
  exact hnone (List.prefix_append _ _)

theorem behindRules?_below (rest : String) :
    behindRules? (rulesPath ++ rest) = some ((Text.splitAt '/' rest.toList).map String.ofList) := by
  have hprefix : "/api/rules/".toList.isPrefixOf (rulesPath ++ rest).toList = true := by
    rw [List.isPrefixOf_iff_prefix, String.toList_append]
    exact List.prefix_append _ _
  rw [behindRules?, if_pos hprefix, String.toList_append]
  rfl

/-- A path behind that of the rules names a rule by one part. -/
theorem ofPath?_rule {id : String} (h : IsSegment id) : ofPath? (rulesPath ++ id) = some (rule id) := by
  obtain ⟨hne, hslash⟩ := h
  rw [ofPath?, lookup_fixed_below, behindRules?_below, Text.splitAt_of_not_mem hslash]
  simp [hne]

/-- A path behind that of the rules names the switch of a rule by two parts. -/
theorem ofPath?_toggle {id : String} (h : IsSegment id) :
    ofPath? (rulesPath ++ id ++ "/toggle") = some (toggle id) := by
  obtain ⟨hne, hslash⟩ := h
  have hback : "/toggle".toList = '/' :: "toggle".toList := by decide
  have hparts : Text.splitAt '/' (id ++ "/toggle").toList = [id.toList, "toggle".toList] := by
    rw [String.toList_append, hback, Text.splitAt_append hslash, Text.splitAt_of_not_mem (by decide)]
  have hlast : withoutFinalNewline "toggle" = "toggle" := by decide
  rw [String.append_assoc, ofPath?, lookup_fixed_below, behindRules?_below, hparts]
  simp [hne, hlast]

/-- There is no slash in an identifier that a path names. -/
theorem isSegment_of_ofPath? {path : String} {place : Place} {id : String} (h : ofPath? path = some place)
    (hid : place.id? = some id) : IsSegment id := by
  have hfixed : ∀ p ∈ fixed, p.2.id? = none := by decide
  rw [ofPath?] at h
  split at h
  · rename_i p hlookup
    cases h
    obtain ⟨before, after, heq, -⟩ := List.lookup_eq_some_iff.1 hlookup
    have := hfixed (withoutFinalNewline path, place) (heq ▸ List.mem_append_right _ List.mem_cons_self)
    rw [hid] at this
    cases this
  · have hparts : ∀ parts, behindRules? path = some parts → ∀ part ∈ parts, '/' ∉ part.toList := by
      intro parts hbehind part hpart
      rw [behindRules?] at hbehind
      split at hbehind
      · cases hbehind
        obtain ⟨cs, hcs, rfl⟩ := List.mem_map.1 hpart
        rw [String.toList_ofList]
        exact Text.not_mem_of_mem_splitAt hcs
      · cases hbehind
    split at h
    · rename_i name hbehind
      split at h
      · cases h
      · rename_i hne
        cases h
        cases hid
        exact ⟨by simpa using hne, hparts _ hbehind _ List.mem_cons_self⟩
    · rename_i name last hbehind
      split at h
      · rename_i hboth
        cases h
        cases hid
        exact ⟨by simpa using hboth.1, hparts _ hbehind _ List.mem_cons_self⟩
      · cases h
    · cases h

end Place

/-! ## Requests -/

theorem Request.route_of_ofPath? {r : Request} {place : Place} {e : Endpoint}
    (hplace : Place.ofPath? r.target.path = some place) (he : place.endpoint? r.method = some e) :
    r.route = .endpoint e := by
  rw [route, Route.find, hplace]
  dsimp only
  rw [he]

namespace Visit

variable {v : Visit} {method path id : String} {e : Endpoint}

/-- A visit sends a method to an encoded path: this is what its own path is when it is decoded. -/
structure SendsTo (v : Visit) (method path : String) : Prop where
  method : v.request.method = method
  path : v.request.target.path = Text.percentDecode path

/-- A path that is sent as it is encoded is sent to. -/
theorem sendsTo_of_path (h : v.request.path = path) : v.SendsTo v.request.method path :=
  ⟨rfl, congrArg Text.percentDecode h⟩

/-- A visit asks for the operation that its method has at the place of its path. -/
theorem SendsTo.asks {place : Place} (h : v.SendsTo method path)
    (hplace : Place.ofPath? (Text.percentDecode path) = some place) (he : place.endpoint? method = some e) :
    v.Asks e :=
  Request.route_of_ofPath? (h.path ▸ hplace) (h.method ▸ he)

theorem SendsTo.asks_rule (h : v.SendsTo method (rulePath id)) (hid : IsSegment id)
    (he : (Place.rule id).endpoint? method = some e) : v.Asks e :=
  h.asks ((percentDecode_rulePath id).symm ▸ Place.ofPath?_rule hid) he

theorem SendsTo.asks_switch (h : v.SendsTo "POST" (switchPath id)) (hid : IsSegment id) :
    v.Asks (.toggleRule id) :=
  h.asks ((percentDecode_switchPath id).symm ▸ Place.ofPath?_toggle hid) rfl

/-- **Only what is one part of a path is asked for.**  No visit asks for an operation on a rule with a slash in
its identifier. -/
theorem isSegment_of_asks (h : v.Asks e) (hid : e.id? = some id) : IsSegment id := by
  obtain ⟨place, hplace, he⟩ := Request.exists_place_of_route h
  exact Place.isSegment_of_ofPath? hplace ((Place.id?_of_endpoint? he).symm.trans hid)

end Visit

end Http

end RuleLabels
