import Mathlib.Tactic.Common
import RuleLabels.Proofs.Http.Refusals
import RuleLabels.Proofs.Http.Sending
import RuleLabels.Proofs.Session.Processing
import RuleLabels.Proofs.Store.Giving

/-!
# What is accepted is listed

A payload that is accepted is a record from then on: whatever else is requested, the list of records names it.
But the list can be sent only if every record in it can, and a payload is accepted whether it can be sent or
not.

* `gives_visit` and `gives_visited`: what a request leaves of the records, and what a run of requests leaves;
* `response_of_perform`: the response to a request whose operation succeeds;
* `listed_of_accepted`: what becomes of a payload that is accepted.
-/

namespace RuleLabels.Http

open Session

/-! ## Visits -/

/-- A request with the time and the identifiers that it is given. -/
structure Visit where
  now : Timestamp
  ids : IdSource
  request : Request

namespace Visit

/-- A session as a visit meets it. -/
def enter (v : Visit) (s : Session) : Session := { s with world := { s.world with now := v.now, ids := v.ids } }

/-- The response to a visit. -/
def response? (v : Visit) (s : Session) : Option Response :=
  ((v.enter s).run (respond v.request)).1.toOption

/-- The session after a visit. -/
def leave (v : Visit) (s : Session) : Session := ((v.enter s).run (respond v.request)).2

/-- The session after visits. -/
def leaveAll (visits : List Visit) (s : Session) : Session := visits.foldl (fun s v => v.leave s) s

/-- A visit asks for an operation. -/
def Asks (v : Visit) (e : Endpoint) : Prop := v.request.route = .endpoint e

theorem run_of_response? {v : Visit} {s : Session} {response : Response} (h : v.response? s = some response) :
    ((v.enter s).run (respond v.request)).1 = .ok response := except_toOption_eq_some.1 h

/-- What a request comes to is what its visit comes to. -/
theorem visit_of_run {v : Visit} {s after : Session} {response : Response}
    (h : (v.enter s).run (respond v.request) = (.ok response, after)) :
    v.response? s = some response ∧ v.leave s = after := by
  rw [response?, leave, h]
  exact ⟨rfl, rfl⟩

theorem leaveAll_append (before : List Visit) (v : Visit) (after : List Visit) (s : Session) :
    leaveAll (before ++ v :: after) s = leaveAll after (v.leave (leaveAll before s)) := by
  rw [leaveAll, List.foldl_append]
  rfl

end Visit

/-- A session gives records, to all threads. -/
structure Gives (s : Session) (records : List Record) : Prop where
  shared : s.store.isSeparate = false
  gives : s.store.Gives records s.world

variable {s : Session} {records : List Record} {v : Visit}

theorem Gives.of_alike {w : World} (h : Gives s records) (hw : s.world.Alike w) :
    Gives ⟨s.store, w⟩ records := ⟨h.shared, h.gives.of_entries hw.entries⟩

theorem Gives.enter (h : Gives s records) (v : Visit) : Gives (v.enter s) records :=
  ⟨h.shared, h.gives.of_entries rfl⟩

/-- What an operation does that fails or succeeds: it adds a record, or none. -/
theorem Gives.does {α : Type} {may : Write → Prop} {a : α} {after : Session} (h : Gives s records)
    (hdoes : Does may s (.ok a, after)) : ∃ more, Gives after (records ++ more) := by
  cases hdoes with
  | looks _ halike =>
    rw [← List.append_nil records] at h
    exact ⟨[], h.of_alike halike⟩
  | @writes _ x _ v v' _ _ hv hrun hw =>
    have hgives := h.gives.of_entries hv.entries
    cases x with
    | rules rules =>
      refine ⟨[], (Store.isSeparate_of_saveRules hrun).trans h.shared, ?_⟩
      rw [List.append_nil]
      exact (hgives.saveRules hrun).of_entries hw.entries
    | record r =>
      exact ⟨[s.store.kept r], (Store.isSeparate_of_append hrun).trans h.shared,
        (hgives.append hrun).of_entries hw.entries⟩

/-! ## Responses -/

variable {r : Request} {e : Endpoint} {body : Option Value} {response : Response} {after : Session}

/-- Where a session is shared, an operation that succeeds is answered, and leaves what it does behind. -/
theorem run_respond_of_perform (hshared : s.store.isSeparate = false) (hroute : r.route = .endpoint e)
    (he : e ≠ .document) (hbody : r.bodyFor e = .ok body)
    (hperform : s.run (perform e r.target body) = (.ok response, after)) :
    s.run (respond r) = (.ok response, after) := by
  have hat : s.elsewhere.run (respondAt r r.route) = (.ok response, after) := by
    rw [hroute, respondAt, hbody, elsewhere_of_shared hshared]
    exact run_answered_ok hperform
  rw [run_respond hat, Response.seenBy_of_ne (r.ne_head_of_route hroute he), back_of_shared hshared]

/-- Whatever is requested, a session that gives records goes on giving them. -/
theorem gives_respond (h : Gives s records) (r : Request) :
    ∃ more, Gives (s.run (respond r)).2 (records ++ more) := by
  obtain ⟨response, after, hrun, hcarried⟩ := exists_carried s r
  rw [hrun, back_of_shared h.shared]
  rw [elsewhere_of_shared h.shared] at hcarried
  cases hcarried with
  | refused _ _ hw => exact ⟨[], (List.append_nil records).symm ▸ h.of_alike hw⟩
  | moved _ => exact ⟨[], (List.append_nil records).symm ▸ h⟩
  | done _ _ herror hperform =>
    have hdoes := (answers_perform s r.target herror).does
    rw [hperform] at hdoes
    exact h.does hdoes

theorem gives_visit (h : Gives s records) (v : Visit) : ∃ more, Gives (v.leave s) (records ++ more) :=
  gives_respond (h.enter v) v.request

/-- **What is given stays given.**  After any run of requests a session gives the records that it gave, and
others behind them. -/
theorem gives_visited (h : Gives s records) (visits : List Visit) :
    ∃ more, Gives (Visit.leaveAll visits s) (records ++ more) := by
  induction visits generalizing s records with
  | nil => exact ⟨[], (List.append_nil records).symm ▸ h⟩
  | cons v rest ih =>
    obtain ⟨more, hv⟩ := gives_visit h v
    obtain ⟨others, hrest⟩ := ih hv
    rw [List.append_assoc] at hrest
    exact ⟨more ++ others, hrest⟩

/-! ## Other threads -/

/-- A session that is not shared stays as it is. -/
theorem store_leave_of_separate (h : s.store.isSeparate = true) (v : Visit) : (v.leave s).store = s.store := by
  have hseparate : (v.enter s).store.isSeparate = true := h
  obtain ⟨response, after, hrun, -⟩ := exists_carried (v.enter s) v.request
  rw [Visit.leave, hrun, store_back_of_separate hseparate]
  rfl

theorem store_leaveAll_of_separate (h : s.store.isSeparate = true) (visits : List Visit) :
    (Visit.leaveAll visits s).store = s.store := by
  induction visits generalizing s with
  | nil => rfl
  | cons v rest ih =>
    have hv := store_leave_of_separate h v
    exact (ih (hv ▸ h)).trans hv

/-- Visits leave a session shared only if it was. -/
theorem shared_of_leaveAll (visits : List Visit)
    (h : (Visit.leaveAll visits s).store.isSeparate = false) : s.store.isSeparate = false := by
  refine Bool.eq_false_iff.2 fun hseparate => ?_
  rw [store_leaveAll_of_separate hseparate, hseparate] at h
  cases h

/-- Another thread finds no rules in a session that is not shared. -/
theorem run_rules_of_separate (h : s.store.isSeparate = true) (rules : List Rule) :
    (s.elsewhere.run Service.rules).1 ≠ .ok rules := by
  rw [run_rules_fst]
  obtain ⟨store, world⟩ := s
  cases store with
  | database d =>
    obtain ⟨url, place, maxDepth⟩ := d
    cases place with
    | memory separate t =>
      cases h
      rintro ⟨⟩
    | _ => cases h
  | _ => cases h

/-! ## Payloads -/

/-- The fields of the response to a payload that was processed. -/
def acceptance (r : Record) : Fields :=
  [("id", .text r.id), ("labels", Value.ofTexts r.labels), ("timestamp", .text r.createdAt.text)]

/-- A request was accepted, with a record that came of its body: the response tells of the record, and the
session that is left gives it behind the others. -/
structure Accepts (s : Session) (r : Request) (record : Record) (after : Session) : Prop where
  body : ∃ v, r.bodyFor .process = .ok (some v) ∧ s.IsRecordOf v record
  response : (s.run (respond r)).1 = .ok (success 200 (acceptance record))
  sendable : unsendableFields maxNesting (acceptance record) = false
  gives : ∀ {records}, Gives s records → Gives after (records ++ [s.store.kept record])

/-- What has the status of success was processed. -/
theorem run_process_of_status (hroute : r.route = .endpoint .process)
    (hresponse : (s.run (respond r)).1 = .ok response) (hstatus : response.status = 200) :
    ∃ body record after, r.bodyFor .process = .ok body ∧
      s.elsewhere.run (Service.process (body.getD .null)) = (.ok record, after) ∧
      response = success 200 (acceptance record) ∧ s.run (respond r) = (.ok response, s.back after) := by
  obtain ⟨response', after, hrun, hcarried⟩ := exists_carried s r
  rw [Response.seenBy_of_ne (r.ne_head_of_route hroute (by decide))] at hrun
  rw [hrun] at hresponse
  cases hresponse
  cases hcarried with
  | @refused c w _ _ _ =>
    have hle := c.le_status_response
    omega
  | moved _ => cases hstatus
  | @done e body _ _ hroute' hbody _ hperform =>
    cases hroute.symm.trans hroute'
    rw [perform, run_bind] at hperform
    rcases hprocess : s.elsewhere.run (Service.process (body.getD .null)) with ⟨f | record, left⟩
    · rw [hprocess] at hperform
      cases hperform
    · rw [hprocess] at hperform
      cases hperform
      exact ⟨body, record, _, hbody, hprocess, rfl, hrun⟩

/-- What has the status of success was accepted, in a session that is shared. -/
theorem accepts_of_status (hroute : r.route = .endpoint .process)
    (hresponse : (s.run (respond r)).1 = .ok response) (hstatus : response.status = 200) :
    s.store.isSeparate = false ∧ ∃ record, Accepts s r record (s.run (respond r)).2 := by
  obtain ⟨body, record, after, hbody, hprocess, rfl, hrun⟩ := run_process_of_status hroute hresponse hstatus
  rcases s.elsewhere.process_or (body.getD .null) with ⟨e, -, hfails⟩ |
    ⟨record', _, w₁, hrecord, -, hw₁, -, ⟨e, w₂, -, hfails⟩ | ⟨store', w₂, w₃, happend, hw₃, hkept⟩⟩
  · cases hprocess.symm.trans hfails
  · cases hprocess.symm.trans hfails
  · cases hprocess.symm.trans hkept
    have hshared : s.store.isSeparate = false := by
      obtain ⟨rules, hrules, -⟩ := hrecord.labels
      exact Bool.eq_false_iff.2 fun hseparate => run_rules_of_separate hseparate rules hrules
    rw [elsewhere_of_shared hshared] at hrecord happend hw₁
    refine ⟨hshared, record, ?_, ?_, ?_, ?_⟩
    · cases body with
      | none => cases hrecord.payload
      | some v => exact ⟨v, hbody, hrecord⟩
    · rw [hrun]
    · rcases success_or 200 (acceptance record) with ⟨-, hbroken⟩ | ⟨hsendable, -⟩
      · rw [hbroken] at hstatus
        cases hstatus
      · exact hsendable
    · intro records h
      rw [hrun, back_of_shared hshared]
      refine ⟨(Store.isSeparate_of_append happend).trans h.shared, ?_⟩
      exact ((h.gives.of_entries hw₁.entries).append happend).of_entries hw₃.entries

/-- What is told of a record that was accepted can be sent, so its texts are whole. -/
theorem isWhole_of_acceptance {record : Record}
    (h : unsendableFields maxNesting (acceptance record) = false) :
    Text.isWhole record.id = true ∧ ∀ l ∈ record.labels, Text.isWhole l = true := by
  have hid : isUnsendable maxNesting (.text record.id) = !Text.isWhole record.id := any_isHalf _
  have hlabels : isUnsendable maxNesting (Value.ofTexts record.labels) =
      record.labels.any (!Text.isWhole ·) := unsendableItems_texts _ _
  rw [acceptance, unsendableFields_cons (by decide), unsendableFields_cons (by decide), hid, hlabels,
    Bool.or_eq_false_iff, Bool.or_eq_false_iff, Bool.not_eq_false', List.any_eq_false] at h
  refine ⟨h.1, fun l hl => ?_⟩
  simpa using h.2.1 l hl

/-- A record that was accepted is kept as it is, if its payload can be sent. -/
theorem kept_of_acceptance {record : Record} (h : unsendableFields maxNesting (acceptance record) = false)
    (hpayload : isSendablePayload record.payload = true) (store : Store) :
    store.kept record = record := by
  obtain ⟨hid, hlabels⟩ := isWhole_of_acceptance h
  cases store with
  | database d => exact Record.joined_of_isSendable (Record.isSendable_iff.2 ⟨hid, hpayload, hlabels⟩)
  | _ => rfl

/-- A record that was accepted can be sent as the store keeps it just if its payload can. -/
theorem isSendable_kept_iff {record : Record} (h : unsendableFields maxNesting (acceptance record) = false)
    (store : Store) : (store.kept record).isSendable = true ↔
      isSendablePayload (store.kept record).payload = true := by
  obtain ⟨hid, hlabels⟩ := isWhole_of_acceptance h
  have hkept : Text.isWhole (store.kept record).id = true ∧
      ∀ l ∈ (store.kept record).labels, Text.isWhole l = true := by
    cases store with
    | database d =>
      refine ⟨hid, fun l hl => ?_⟩
      obtain ⟨l', hl', rfl⟩ := List.mem_map.1 hl
      rw [Text.joinedHalves_of_isWhole (hlabels l' hl')]
      exact hlabels l' hl'
    | _ => exact ⟨hid, hlabels⟩
  rw [Record.isSendable_iff]
  exact ⟨fun h => h.2.1, fun h => ⟨hkept.1, h, hkept.2⟩⟩

/-! ## Lists and summaries -/

/-- What a session answers that gives records: it lists them all, each with its finite payload, if all can be
sent, and nothing otherwise; and it sums them up if the summary can be sent, as it can if all of them can. -/
structure Shows (s : Session) (records : List Record) : Prop where
  given : (s.run Service.records).1 = .ok records
  listed : ∀ x : Visit, x.Asks .records → ∃ response, x.response? s = some response ∧
    if records.all Record.isSendable then response.status = 200 ∧
      response.Sends (.object (("ok", .bool true) :: listing (records.map Record.finite)))
    else response = .broken
  summed : ∀ (x : Visit) (c : Criteria), x.Asks .statistics → criteria x.request.target = .ok c → ∃ response, x.response? s = some response ∧
      if (Snapshot.ofRecords x.now c records).isSendable then response.status = 200 else response = .broken
  summable : records.all Record.isSendable = true → ∀ now c, (Snapshot.ofRecords now c records).isSendable = true

theorem run_records (h : Gives s records) : s.run Service.records = (.ok records, s) := by
  rw [Session.run_records, run_lift h.gives.run_records]

theorem run_statistics (h : Gives s records) (c : Criteria) : ∃ w,
    s.run (Service.statistics c) = (.ok (Snapshot.ofRecords s.world.now c records), ⟨s.store, w⟩) := by
  rw [Service.statistics, run_bind_ok (run_records h)]
  exact ⟨_, rfl⟩

/-- What a session gives it shows. -/
theorem Gives.shows (h : Gives s records) : Shows s records where
  given := by rw [run_records_fst, h.gives.run_records]
  listed x hasks := by
    have hx := h.enter x
    have hperform : (x.enter s).run (perform .records x.request.target none) =
        (.ok (success 200 (listing records)), x.enter s) := by
      rw [perform, run_bind_ok (run_records hx)]
      rfl
    refine ⟨success 200 (listing records), ?_, ?_⟩
    · exact (Visit.visit_of_run (run_respond_of_perform hx.shared hasks (by decide) rfl hperform)).1
    · rcases success_or 200 (listing records) with ⟨hunsendable, hbroken⟩ | ⟨hsendable, hstatus, hsends⟩
      · rw [unsendableFields_listing, Bool.not_eq_true'] at hunsendable
        rw [hunsendable, hbroken]
        rfl
      · rw [unsendableFields_listing, Bool.not_eq_false'] at hsendable
        rw [finiteFields_listing] at hsends
        rw [hsendable]
        exact ⟨hstatus, hsends⟩
  summed x c hasks hcriteria := by
    have hx := h.enter x
    obtain ⟨w, hstatistics⟩ := run_statistics hx c
    have hperform : (x.enter s).run (perform .statistics x.request.target none) =
        (.ok (success 200 (Snapshot.ofRecords x.now c records).fields), ⟨s.store, w⟩) := by
      rw [perform, hcriteria]
      show (x.enter s).run (Service.statistics c >>= fun summary => pure (success 200 summary.fields)) = _
      rw [run_bind_ok hstatistics]
      rfl
    refine ⟨success 200 (Snapshot.ofRecords x.now c records).fields, ?_, ?_⟩
    · exact (Visit.visit_of_run (run_respond_of_perform hx.shared hasks (by decide) rfl hperform)).1
    · rcases success_or 200 (Snapshot.ofRecords x.now c records).fields with
        ⟨hunsendable, hbroken⟩ | ⟨hsendable, hstatus, -⟩
      · rw [unsendableFields_summary, Bool.not_eq_true'] at hunsendable
        rw [hunsendable, hbroken]
        rfl
      · rw [unsendableFields_summary, Bool.not_eq_false'] at hsendable
        rw [hsendable]
        exact hstatus
  summable := Snapshot.isSendable_ofRecords

/-! ## What is accepted -/

/-- **What is accepted is listed, if all can be sent.**  A store was opened and gives its records.  If after any
requests a payload is answered with the status of success, the answer tells of the record that comes of the
payload, and after any further requests the session gives that record, as the store keeps it, behind those
from before.  It shows them all: in a list if each of them can be sent, and in a summary if that can be sent.

* The record is kept as it is if its payload can be sent, and it can be sent just if the payload that is kept
  can be.
* It is listed as it is kept just if the floats in its payload are finite. -/
theorem listed_of_accepted {limits : Json.Limits} {seed : Bool} {place : Store.Place} {world : World}
    (hopen : openAt? limits seed place world = some s) (hrecords : (s.run Service.records).1 = .ok records)
    {before : List Visit} {v : Visit} (hasks : v.Asks .process)
    (hresponse : v.response? (Visit.leaveAll before s) = some response) (hstatus : response.status = 200) :
    ∃ body record kept, readBody v.request.body = .ok (some body) ∧
      (v.enter (Visit.leaveAll before s)).IsRecordOf body record ∧
      response = success 200 (acceptance record) ∧
      kept = (Visit.leaveAll before s).store.kept record ∧
      (isSendablePayload record.payload = true → kept = record) ∧
      (kept.isSendable = true ↔ isSendablePayload kept.payload = true) ∧
      (kept.finite = kept ↔ Value.fieldsAreFinite kept.payload = true) ∧
      ∀ after : List Visit, ∃ earlier later,
        Shows (Visit.leaveAll (before ++ v :: after) s) (records ++ earlier ++ kept :: later) := by
  have hanswered := Visit.run_of_response? hresponse
  obtain ⟨hmet, record, haccepts⟩ := accepts_of_status hasks hanswered hstatus
  have hstart : Gives s records := by
    refine ⟨shared_of_leaveAll before hmet, Store.gives_of_openAt (run_of_openAt? hopen) ?_⟩
    rw [← run_records_fst, hrecords]
  obtain ⟨earlier, hbefore⟩ := gives_visited hstart before
  have htaken := haccepts.gives (hbefore.enter v)
  obtain ⟨body, hbody, hrecord⟩ := haccepts.body
  cases hanswered.symm.trans haccepts.response
  refine ⟨body, record, _, hbody, hrecord, rfl, rfl,
    fun hpayload => kept_of_acceptance haccepts.sendable hpayload _,
    isSendable_kept_iff haccepts.sendable _, Record.finite_eq_self_iff, fun after => ?_⟩
  obtain ⟨later, hafter⟩ := gives_visited htaken after
  rw [List.append_assoc, List.singleton_append] at hafter
  rw [Visit.leaveAll_append]
  exact ⟨earlier, later, hafter.shows⟩

/-- A payload with a number. -/
def numberPosted : Visit := ⟨.epoch, ⟨0, 0⟩, ⟨"POST", "/api/process", "", some "\x7b\"n\": 1\x7d"⟩⟩

theorem listed_of_accepted_one :
    ∃ (s : Session) (response : Response) (kept : Record) (earlier later : List Record),
      openAt? .unbounded false .memory bareWorld = some s ∧ (s.run Service.records).1 = .ok [] ∧
      numberPosted.Asks .process ∧ numberPosted.response? s = some response ∧
      response.status = 200 ∧ Shows (Visit.leaveAll [numberPosted] s) (earlier ++ kept :: later) := by
  have hasks : numberPosted.Asks .process := by
    rw [Visit.Asks]
    decide +kernel
  have hruns : (openAt? .unbounded false .memory bareWorld).any fun s =>
      (s.run Service.records).1.isOk && passes List.isEmpty (s.run Service.records).1 &&
        (numberPosted.response? s).any fun response => response.status = 200 := by
    decide +kernel
  obtain ⟨s, hs, hfound⟩ := (Option.any_eq_true _ _).1 hruns
  simp only [Bool.and_eq_true] at hfound
  obtain ⟨⟨hgives, hnone⟩, hresponds⟩ := hfound
  obtain ⟨records, hrecords⟩ := except_isOk_eq_true.1 hgives
  obtain rfl := List.isEmpty_iff.1 (of_passes hnone records hrecords)
  obtain ⟨response, hresponse, hstatus⟩ := (Option.any_eq_true _ _).1 hresponds
  rw [decide_eq_true_eq] at hstatus
  have hmet : numberPosted.response? (Visit.leaveAll [] s) = some response := hresponse
  obtain ⟨_, _, kept, -, -, -, -, -, -, -, hlisted⟩ := listed_of_accepted hs hrecords hasks hmet hstatus
  obtain ⟨earlier, later, hshows⟩ := hlisted []
  exact ⟨s, response, kept, _, later, hs, hrecords, hasks, hresponse, hstatus, hshows⟩

/-- A payload with half of a character. -/
def halfPosted : Visit := ⟨.epoch, ⟨0, 0⟩, ⟨"POST", "/api/process", "", some "\x7b\"half\": \"\\ud800\"\x7d"⟩⟩

/-- A request for the list of records. -/
def recordsWanted : Visit := ⟨.epoch, ⟨1, 0⟩, ⟨"GET", "/api/records", "", none⟩⟩

/-- A payload with half of a character is accepted, and then nothing is listed any more. -/
theorem accepted_not_listed :
    ∃ (s : Session) (accepted listed : Response), openAt? .unbounded false .memory bareWorld = some s ∧
      halfPosted.response? s = some accepted ∧ accepted.status = 200 ∧
      recordsWanted.response? (halfPosted.leave s) = some listed ∧ listed.status = 500 := by
  have hruns : (openAt? .unbounded false .memory bareWorld).any fun s =>
      (halfPosted.response? s).any (fun response => response.status = 200) &&
        (recordsWanted.response? (halfPosted.leave s)).any fun response => response.status = 500 := by
    decide +kernel
  obtain ⟨s, hs, hboth⟩ := (Option.any_eq_true _ _).1 hruns
  obtain ⟨hposted, hlisted⟩ := Bool.and_eq_true_iff.1 hboth
  obtain ⟨accepted, haccepted, hstatus⟩ := (Option.any_eq_true _ _).1 hposted
  obtain ⟨listed, hlist, hstatus'⟩ := (Option.any_eq_true _ _).1 hlisted
  exact ⟨s, accepted, listed, hs, haccepted, of_decide_eq_true hstatus, hlist, of_decide_eq_true hstatus'⟩

end RuleLabels.Http
