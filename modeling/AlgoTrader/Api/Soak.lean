/-
# Api.Soak -- what administrators put on record during the soak

An administrator records evidence for a criterion, opens an incident and closes it.  A form is checked first, its
free text is redacted before it is stored, and a write may raise before or after it was made.

* `serve` -- one request, from its form to the row it leaves;
* `Documented` -- what every stored row is worth: known words, and texts that say something and give nothing away;
* `serve_documented`, `soak_documented` -- kept by every request, and so after any of them;
* `incident_closed_once` -- an incident is closed once, by the request that was told so, and stays as it was closed.
-/
import Mathlib.Data.List.Nodup
import AlgoTrader.Core.Models
import AlgoTrader.Core.RedactedText
import AlgoTrader.Core.Uuid

namespace AlgoTrader.Api.Soak

open AlgoTrader.Core Text Redaction

set_option autoImplicit false

/-! ## The forms -/

def noteLimit : Nat := 500

def evidenceKinds : List (String × String) :=
  [("local", "Local validation"), ("ci", "Remote CI"), ("infra", "Agent-run infrastructure"),
    ("provider", "Owner-run provider verification")]

def evidenceStatuses : List String := ["pass", "fail"]

def soakCriteria : List (String × String) :=
  [("no_unexplained_mismatch", "30 consecutive days with no unexplained position or balance mismatch."),
    ("disconnect_gap_fill", "A WebSocket disconnect survives with correct gap fill."),
    ("restart_recovery", "A process restart survives with correct state recovery."),
    ("divergence_handled",
      "A reconciliation divergence is observed and explained, or deliberately injected and correctly handled."),
    ("kill_switch_verified", "The kill switch fires and is verified during the period."),
    ("incidents_documented", "No open incident lacks a documented cause."),
    ("backup_restore_verified", "A backup and restore drill has completed successfully.")]

def readinessGates : List (String × String) :=
  [("soak_complete", "Phase 1.5 soak (#12) is completed in full."),
    ("coinbase_key_scoped",
      "The Coinbase production key is limited to View + Trade, with transfers and withdrawals disabled and IP " ++
        "allowlisting where available."),
    ("safety_controls_tested",
      "The reconciler, alerts, kill switch, and incident runbook are approved and tested.")]

/-- `CRITERIA`. -/
def criteria : List (String × String) := soakCriteria ++ readinessGates

/-- `form.get(name, "")`. -/
abbrev Form := String → List Char

/-- The words a field may hold. -/
def Among (words : List String) (value : List Char) : Prop := value ∈ words.map String.toList

instance (words : List String) (value : List Char) : Decidable (Among words value) :=
  inferInstanceAs (Decidable (_ ∈ _))

/-- What is wrong with a free text. -/
def textErrors (name missing : String) (text : List Char) : List String :=
  if text = [] then [missing]
  else if noteLimit < text.length then [s!"Keep the {name} to {noteLimit} characters or fewer."]
  else []

structure EvidenceSubmission where
  criterion : List Char
  kind : List Char
  status : List Char
  note : List Char
  errors : List String

/-- `parse_evidence`. -/
def parseEvidence (form : Form) : EvidenceSubmission :=
  let criterion := strip (form "criterion")
  let kind := strip (form "kind")
  let status := strip (form "status")
  let note := strip (form "note")
  { criterion, kind, status, note
    errors :=
      (if Among (criteria.map Prod.fst) criterion then []
        else ["Choose one of the listed soak or readiness criteria."]) ++
      (if Among (evidenceKinds.map Prod.fst) kind then []
        else ["kind must be one of " ++ ", ".intercalate (evidenceKinds.map Prod.fst) ++ "."]) ++
      (if Among evidenceStatuses status then []
        else ["status must be one of " ++ ", ".intercalate evidenceStatuses ++ "."]) ++
      textErrors "note" "Enter a reference to the dated result this evidence points at." note }

structure IncidentOpenSubmission where
  cause : List Char
  errors : List String

/-- `parse_incident_open`. -/
def parseIncidentOpen (form : Form) : IncidentOpenSubmission :=
  let cause := strip (form "cause")
  ⟨cause, textErrors "cause" "Describe the cause of the incident." cause⟩

structure IncidentCloseSubmission where
  incidentId : Option Uuid
  note : List Char
  errors : List String

/-- `parse_incident_close`. -/
def parseIncidentClose (form : Form) : IncidentCloseSubmission :=
  let rawId := strip (form "incident_id")
  let note := strip (form "note")
  let (incidentId, errors) :=
    if rawId = [] then (none, ["Choose an open incident to close."])
    else
      match Uuid.parseChars rawId with
      | some id => (some id, [])
      | none => (none, ["The incident reference is not valid."])
  ⟨incidentId, note, errors ++ textErrors "note" "Describe how the incident was resolved." note⟩

/-! ## The rows -/

structure EvidenceRecord where
  evidenceId : Uuid
  criterion : List Char
  kind : List Char
  status : List Char
  note : List Char
  recordedBy : String
  recordedAt : Timestamp
  deriving DecidableEq

structure IncidentRecord where
  incidentId : Uuid
  cause : List Char
  openedBy : String
  openedAt : Timestamp
  closedNote : Option (List Char) := none
  closedBy : Option String := none
  closedAt : Option Timestamp := none
  deriving DecidableEq

/-- `evidence_records` and `incident_records`. -/
structure Records where
  evidence : List EvidenceRecord := []
  incidents : List IncidentRecord := []

/-- How the transaction of a write ends: it is committed, or it raises, written or not. -/
inductive Ending where
  | committed
  | failed (wrote : Bool)

/-- What a write answers, where it does not raise, and what it leaves. -/
def Ending.settle {α σ : Type} (ending : Ending) (answer : α) (before written : σ) : Option α × σ :=
  match ending with
  | .committed => (some answer, written)
  | .failed wrote => (none, if wrote then written else before)

section Writes

variable (words : Words)

/-- `record_evidence`.  An identifier that is taken raises. -/
def recordEvidence (submitted : EvidenceSubmission) (recordedBy : String) (id : Uuid) (now : Timestamp)
    (ending : Ending) (records : Records) : Option EvidenceRecord × Records :=
  let record : EvidenceRecord :=
    { evidenceId := id, criterion := submitted.criterion, kind := submitted.kind, status := submitted.status
      note := redactFreeText words [] submitted.note, recordedBy, recordedAt := now }
  if id ∈ records.evidence.map EvidenceRecord.evidenceId then (none, records)
  else ending.settle record records { records with evidence := records.evidence ++ [record] }

/-- `open_incident`. -/
def openIncident (cause : List Char) (openedBy : String) (id : Uuid) (now : Timestamp) (ending : Ending)
    (records : Records) : Option IncidentRecord × Records :=
  let record : IncidentRecord :=
    { incidentId := id, cause := redactFreeText words [] cause, openedBy, openedAt := now }
  if id ∈ records.incidents.map IncidentRecord.incidentId then (none, records)
  else ending.settle record records { records with incidents := records.incidents ++ [record] }

/-- The row of an incident that is closed. -/
def closed (note : List Char) (closedBy : String) (now : Timestamp) (record : IncidentRecord) : IncidentRecord :=
  { record with closedNote := some (redactFreeText words [] note), closedBy := some closedBy, closedAt := some now }

/-- `close_incident`. -/
def closeIncident (id : Uuid) (note : List Char) (closedBy : String) (now : Timestamp) (ending : Ending)
    (records : Records) : Option (Option IncidentRecord) × Records :=
  match records.incidents.find? (·.incidentId = id) with
  | none => (some none, records)
  | some record =>
      if record.closedAt.isSome then (some none, records)
      else
        ending.settle (some (closed words note closedBy now record)) records
          { records with
            incidents := records.incidents.map fun other =>
              if other.incidentId = id then closed words note closedBy now other else other }

end Writes

/-! ## The requests -/

inductive Request where
  | recordEvidence (form : Form)
  | openIncident (form : Form)
  | closeIncident (form : Form)

inductive Response where
  | refused (errors : List String)
  | unavailable
  | recorded
  deriving DecidableEq

/-- A request, with the identifier that is drawn for it, the clock, and how its write ends. -/
structure Turn where
  request : Request
  role : String
  id : Uuid
  now : Timestamp
  ending : Ending

section Requests

variable (words : Words)

/-- One request of an administrator. -/
def serve (turn : Turn) (records : Records) : Response × Records :=
  match turn.request with
  | .recordEvidence form =>
      let submitted := parseEvidence form
      if submitted.errors ≠ [] then (.refused submitted.errors, records)
      else
        let (answer, after_) := recordEvidence words submitted turn.role turn.id turn.now turn.ending records
        (if answer.isSome then .recorded else .unavailable, after_)
  | .openIncident form =>
      let submitted := parseIncidentOpen form
      if submitted.errors ≠ [] then (.refused submitted.errors, records)
      else
        let (answer, after_) := openIncident words submitted.cause turn.role turn.id turn.now turn.ending records
        (if answer.isSome then .recorded else .unavailable, after_)
  | .closeIncident form =>
      let submitted := parseIncidentClose form
      match submitted.errors, submitted.incidentId with
      | [], some id =>
          match closeIncident words id submitted.note turn.role turn.now turn.ending records with
          | (none, after_) => (.unavailable, after_)
          | (some none, after_) => (.refused ["No open incident matches that reference."], after_)
          | (some (some _), after_) => (.recorded, after_)
      -- Without an identifier there is an error.
      | errors, _ => (.refused errors, records)

/-- Requests one after another. -/
def serveAll (turns : List Turn) (records : Records) : Records :=
  turns.foldl (fun records turn => (serve words turn records).2) records

end Requests

/-! ## What is stored -/

section Stored

variable (words : Words)

/-- A text that says something and gives nothing away. -/
structure Safe (text : List Char) : Prop where
  filled : text ≠ []
  clean : Clean words [] text

/-- Evidence for a criterion there is. -/
structure Attested (record : EvidenceRecord) : Prop where
  criterion : Among (criteria.map Prod.fst) record.criterion
  kind : Among (evidenceKinds.map Prod.fst) record.kind
  status : Among evidenceStatuses record.status
  note : Safe words record.note

/-- An incident with its cause, and with everything of its closing or nothing. -/
structure Told (record : IncidentRecord) : Prop where
  cause : Safe words record.cause
  closing : (record.closedAt = none ∧ record.closedNote = none ∧ record.closedBy = none) ∨
    ∃ at_ note by_, record.closedAt = some at_ ∧ record.closedNote = some note ∧ record.closedBy = some by_ ∧
      Safe words note

structure Documented (records : Records) : Prop where
  evidenceIds : (records.evidence.map EvidenceRecord.evidenceId).Nodup
  incidentIds : (records.incidents.map IncidentRecord.incidentId).Nodup
  evidence : ∀ record ∈ records.evidence, Attested words record
  incidents : ∀ record ∈ records.incidents, Told words record

end Stored

section Texts

variable {words : Words}

theorem strip_solid {text : List Char} (some : strip text ≠ []) : ∃ c ∈ strip text, isSpace c = false := by
  unfold strip at some ⊢
  cases rest : (text.dropWhile isSpace).reverse.dropWhile isSpace with
  | nil =>
    rw [rest] at some
    exact absurd rfl some
  | cons c rest' =>
    refine ⟨c, by simp, ?_⟩
    have stops := List.head?_dropWhile_not isSpace (text.dropWhile isSpace).reverse
    rw [rest] at stops
    simpa using stops

theorem textErrors_none {name missing : String} {text : List Char} (fine : textErrors name missing text = []) :
    text ≠ [] := by
  rintro rfl
  rw [textErrors, if_pos rfl] at fine
  cases fine

/-- What a form hands over as its text is safe once it is redacted. -/
theorem redacted_safe {name missing : String} {raw : List Char} (fine : textErrors name missing (strip raw) = []) :
    Safe words (redactFreeText words [] (strip raw)) := by
  obtain ⟨c, member, solid⟩ := strip_solid (textErrors_none fine)
  exact ⟨redact_some words member solid, redact_clean words [] _⟩

theorem parseEvidence_fine {form : Form} (fine : (parseEvidence form).errors = []) :
    Among (criteria.map Prod.fst) (parseEvidence form).criterion ∧
      Among (evidenceKinds.map Prod.fst) (parseEvidence form).kind ∧
      Among evidenceStatuses (parseEvidence form).status ∧
      Safe words (redactFreeText words [] (parseEvidence form).note) := by
  unfold parseEvidence at fine
  dsimp only at fine
  obtain ⟨⟨⟨first, second⟩, third⟩, last⟩ := by
    simpa only [List.append_eq_nil_iff] using fine
  have holds : ∀ {p : Prop} [Decidable p] {message : String}, (if p then [] else [message]) = [] → p := by
    intro p _ message none_
    by_contra fails
    rw [if_neg fails] at none_
    cases none_
  exact ⟨holds first, holds second, holds third, redacted_safe last⟩

theorem parseIncidentOpen_fine {form : Form} (fine : (parseIncidentOpen form).errors = []) :
    Safe words (redactFreeText words [] (parseIncidentOpen form).cause) := redacted_safe fine

theorem parseIncidentClose_fine {form : Form} (fine : (parseIncidentClose form).errors = []) :
    (parseIncidentClose form).incidentId.isSome = true ∧
      Safe words (redactFreeText words [] (parseIncidentClose form).note) := by
  unfold parseIncidentClose at fine ⊢
  dsimp only at fine ⊢
  obtain ⟨named, last⟩ := List.append_eq_nil_iff.1 fine
  refine ⟨?_, redacted_safe last⟩
  split at named
  · cases named
  · rename_i some_
    rw [if_neg some_]
    split at named
    · rfl
    · cases named

end Texts

/-! ## One request -/

theorem Ending.settle_leaves {α σ : Type} (ending : Ending) (answer : α) (before written : σ) :
    (ending.settle answer before written).2 = before ∨ (ending.settle answer before written).2 = written := by
  cases ending with
  | committed => exact .inr rfl
  | failed wrote =>
    cases wrote
    · exact .inl rfl
    · exact .inr rfl

theorem Ending.settle_answers {α σ : Type} {ending : Ending} {answer given : α} {before written : σ}
    (told : (ending.settle answer before written).1 = some given) :
    given = answer ∧ (ending.settle answer before written).2 = written := by
  cases ending with
  | committed => exact ⟨(Option.some.inj told).symm, rfl⟩
  | failed wrote => cases told

theorem nodup_snoc {ids : List Uuid} {id : Uuid} (distinct : ids.Nodup) (free : id ∉ ids) : (ids ++ [id]).Nodup := by
  refine List.nodup_append.2 ⟨distinct, List.nodup_singleton _, ?_⟩
  rintro taken member _ new rfl
  exact free (List.mem_singleton.1 new ▸ member)

section Serve

variable {words : Words} {records : Records}

/-- Closing a row is all that a close does to the rows of its identifier. -/
theorem closing_ids (id : Uuid) (note : List Char) (closedBy : String) (now : Timestamp)
    (incidents : List IncidentRecord) :
    (incidents.map fun other => if other.incidentId = id then closed words note closedBy now other else other).map
      IncidentRecord.incidentId = incidents.map IncidentRecord.incidentId := by
  rw [List.map_map]
  refine List.map_congr_left fun record _ => ?_
  rw [Function.comp_apply]
  split
  · rfl
  · rfl

theorem recordEvidence_documented (documented : Documented words records) {form : Form}
    (fine : (parseEvidence form).errors = []) (recordedBy : String) (id : Uuid) (now : Timestamp) (ending : Ending) :
    Documented words (recordEvidence words (parseEvidence form) recordedBy id now ending records).2 := by
  unfold recordEvidence
  dsimp only
  split
  · exact documented
  · rename_i free
    rcases ending.settle_leaves _ records _ with same | written
    · rw [same]
      exact documented
    · rw [written]
      obtain ⟨criterion, kind, status, note⟩ := @parseEvidence_fine words _ fine
      refine ⟨?_, documented.incidentIds, fun record member => ?_, documented.incidents⟩
      · rw [List.map_append]
        exact nodup_snoc documented.evidenceIds free
      · rcases List.mem_append.1 member with earlier | new
        · exact documented.evidence record earlier
        · rw [List.mem_singleton.1 new]
          exact ⟨criterion, kind, status, note⟩

theorem openIncident_documented (documented : Documented words records) {form : Form}
    (fine : (parseIncidentOpen form).errors = []) (openedBy : String) (id : Uuid) (now : Timestamp) (ending : Ending) :
    Documented words (openIncident words (parseIncidentOpen form).cause openedBy id now ending records).2 := by
  unfold openIncident
  dsimp only
  split
  · exact documented
  · rename_i free
    rcases ending.settle_leaves _ records _ with same | written
    · rw [same]
      exact documented
    · rw [written]
      refine ⟨documented.evidenceIds, ?_, documented.evidence, fun record member => ?_⟩
      · rw [List.map_append]
        exact nodup_snoc documented.incidentIds free
      · rcases List.mem_append.1 member with earlier | new
        · exact documented.incidents record earlier
        · rw [List.mem_singleton.1 new]
          exact ⟨parseIncidentOpen_fine fine, .inl ⟨rfl, rfl, rfl⟩⟩

theorem closeIncident_documented (documented : Documented words records) {form : Form}
    (fine : (parseIncidentClose form).errors = []) (closedBy : String) (id : Uuid) (now : Timestamp) (ending : Ending) :
    Documented words (closeIncident words id (parseIncidentClose form).note closedBy now ending records).2 := by
  unfold closeIncident
  split
  · exact documented
  · split
    · exact documented
    · rcases ending.settle_leaves _ records _ with same | written
      · rw [same]
        exact documented
      · rw [written]
        refine ⟨documented.evidenceIds, ?_, documented.evidence, fun record member => ?_⟩
        · dsimp only
          rw [closing_ids]
          exact documented.incidentIds
        · obtain ⟨other, there, rfl⟩ := List.mem_map.1 member
          have told := documented.incidents other there
          split
          · exact ⟨told.cause, .inr ⟨now, _, closedBy, rfl, rfl, rfl, (parseIncidentClose_fine fine).2⟩⟩
          · exact told

/-- The close that a request asks for, or nothing. -/
theorem serve_close {turn : Turn} {form : Form} (request : turn.request = .closeIncident form) :
    serve words turn records = (.refused (parseIncidentClose form).errors, records) ∨
      (parseIncidentClose form).errors = [] ∧ ∃ id, (parseIncidentClose form).incidentId = some id ∧
        serve words turn records =
          match closeIncident words id (parseIncidentClose form).note turn.role turn.now turn.ending records with
          | (none, after_) => (.unavailable, after_)
          | (some none, after_) => (.refused ["No open incident matches that reference."], after_)
          | (some (some _), after_) => (.recorded, after_) := by
  unfold serve
  rw [request]
  dsimp only
  split
  · rename_i id fine named
    exact .inr ⟨fine, id, named, rfl⟩
  · exact .inl rfl

theorem serve_documented (documented : Documented words records) (turn : Turn) :
    Documented words (serve words turn records).2 := by
  cases request : turn.request with
  | recordEvidence form =>
    unfold serve
    rw [request]
    dsimp only
    split
    · exact documented
    · rename_i fine
      exact recordEvidence_documented documented (not_not.1 fine) ..
  | openIncident form =>
    unfold serve
    rw [request]
    dsimp only
    split
    · exact documented
    · rename_i fine
      exact openIncident_documented documented (not_not.1 fine) ..
  | closeIncident form =>
    rcases @serve_close words records _ _ request with is | ⟨fine, id, _, is⟩
    · rw [is]
      exact documented
    · have kept := closeIncident_documented documented fine turn.role id turn.now turn.ending
      rw [is]
      split
      · rename_i left
        rwa [left] at kept
      · rename_i left
        rwa [left] at kept
      · rename_i left
        rwa [left] at kept

end Serve

/-! ## An incident that is closed -/

section Closing

variable {words : Words} {records : Records}

theorem Ending.settle_keeps {α σ : Type} (ending : Ending) (keeps : σ → Prop) (answer : α) {before written : σ}
    (old : keeps before) (new : keeps written) : keeps (ending.settle answer before written).2 := by
  rcases ending.settle_leaves answer before written with same | same
  · rwa [same]
  · rwa [same]

/-- The row with an identifier is found by it. -/
theorem found_by_id (distinct : (records.incidents.map IncidentRecord.incidentId).Nodup) {record : IncidentRecord}
    (member : record ∈ records.incidents) :
    records.incidents.find? (·.incidentId = record.incidentId) = some record := by
  cases found : records.incidents.find? (·.incidentId = record.incidentId) with
  | none => exact absurd (decide_eq_true rfl) (List.find?_eq_none.1 found record member)
  | some other =>
    have same : other.incidentId = record.incidentId := by simpa using List.find?_some found
    rw [List.inj_on_of_nodup_map distinct (List.mem_of_find?_eq_some found) member same]

/-- What a request may do to the incidents: nothing, or a new one, or it closes one that was open. -/
theorem serve_incidents (documented : Documented words records) (turn : Turn) :
    (serve words turn records).2.incidents = records.incidents ∨
      (∃ record, record.openedAt = turn.now ∧
        (serve words turn records).2.incidents = records.incidents ++ [record]) ∨
      ∃ id note, (∀ record ∈ records.incidents, record.incidentId = id → record.closedAt = none) ∧
        (serve words turn records).2.incidents = records.incidents.map fun other =>
          if other.incidentId = id then closed words note turn.role turn.now other else other := by
  cases request : turn.request with
  | recordEvidence form =>
    refine .inl ?_
    unfold serve
    rw [request]
    dsimp only
    split
    · rfl
    · unfold recordEvidence
      dsimp only
      split
      · rfl
      · exact turn.ending.settle_keeps (fun left : Records => left.incidents = records.incidents) _ rfl rfl
  | openIncident form =>
    unfold serve
    rw [request]
    dsimp only
    split
    · exact .inl rfl
    · unfold openIncident
      dsimp only
      split
      · exact .inl rfl
      · rcases @Ending.settle_leaves IncidentRecord _ turn.ending _ records _ with same | written
        · exact .inl (congrArg Records.incidents same)
        · exact .inr (.inl ⟨_, rfl, congrArg Records.incidents written⟩)
  | closeIncident form =>
    rcases @serve_close words records _ _ request with is | ⟨_, id, _, is⟩
    · exact .inl (congrArg (fun left => left.2.incidents) is)
    · have left : (serve words turn records).2 =
          (closeIncident words id (parseIncidentClose form).note turn.role turn.now turn.ending records).2 := by
        rw [is]
        split
        · rename_i made
          rw [made]
        · rename_i made
          rw [made]
        · rename_i made
          rw [made]
      rw [left]
      unfold closeIncident
      split
      · exact .inl rfl
      · rename_i _ found
        split
        · exact .inl rfl
        · rename_i still
          rcases @Ending.settle_leaves (Option IncidentRecord) _ turn.ending _ records _ with same | written
          · exact .inl (congrArg Records.incidents same)
          · refine .inr (.inr ⟨id, (parseIncidentClose form).note, ?_, congrArg Records.incidents written⟩)
            -- The row of the identifier is the one that was found, and that one is open.
            rintro record member rfl
            rw [found_by_id documented.incidentIds member] at found
            rw [← Option.some.inj found] at still
            simpa using still

/-- A closed row is not touched any more. -/
theorem closed_stays (documented : Documented words records) {record : IncidentRecord}
    (member : record ∈ records.incidents) (over_ : record.closedAt.isSome = true) (turn : Turn) :
    record ∈ (serve words turn records).2.incidents := by
  rcases serve_incidents documented turn with is | ⟨_, _, is⟩ | ⟨id, note, open_, is⟩
  · rw [is]
    exact member
  · rw [is]
    exact List.mem_append_left _ member
  · rw [is]
    have other : record.incidentId ≠ id := fun same => by
      rw [open_ record member same] at over_
      cases over_
    exact List.mem_map.2 ⟨record, member, if_neg other⟩

theorem documented_none : Documented words {} :=
  ⟨List.nodup_nil, List.nodup_nil, fun _ member => absurd member List.not_mem_nil,
    fun _ member => absurd member List.not_mem_nil⟩

theorem serveAll_documented (documented : Documented words records) (turns : List Turn) :
    Documented words (serveAll words turns records) := by
  unfold serveAll
  induction turns generalizing records with
  | nil => exact documented
  | cons turn turns ih => exact ih (serve_documented documented turn)

theorem serveAll_closed (documented : Documented words records) {record : IncidentRecord}
    (member : record ∈ records.incidents) (over_ : record.closedAt.isSome = true) (turns : List Turn) :
    record ∈ (serveAll words turns records).incidents := by
  unfold serveAll
  induction turns generalizing records with
  | nil => exact member
  | cons turn turns ih => exact ih (serve_documented documented turn) (closed_stays documented member over_ turn)

/-- What a close that was recorded found, and what it left. -/
theorem close_recorded {turn : Turn} {form : Form} {id : Uuid}
    (request : turn.request = .closeIncident form) (names : (parseIncidentClose form).incidentId = some id)
    (recorded : (serve words turn records).1 = .recorded) :
    ∃ record ∈ records.incidents, record.incidentId = id ∧ record.closedAt = none ∧
      closed words (parseIncidentClose form).note turn.role turn.now record ∈
        (serve words turn records).2.incidents := by
  rcases @serve_close words records _ _ request with is | ⟨_, id', names', is⟩
  · rw [is] at recorded
    cases recorded
  · obtain rfl : id' = id := Option.some.inj (names'.symm.trans names)
    rw [is] at recorded ⊢
    split at recorded
    · cases recorded
    · cases recorded
    · rename_i row after_ made
      dsimp only
      unfold closeIncident at made
      split at made
      · cases made
      · rename_i record found
        have member := List.mem_of_find?_eq_some found
        have same : record.incidentId = id' := by simpa using List.find?_some found
        split at made
        · cases made
        · rename_i still
          refine ⟨record, member, same, by simpa using still, ?_⟩
          have settled := Ending.settle_answers (congrArg Prod.fst made)
          rw [congrArg Prod.snd made] at settled
          have left : after_ = _ := settled.2
          rw [left]
          exact List.mem_map.2 ⟨record, member, if_pos same⟩

end Closing

/-! ## Any requests -/

/-- No row of either table is there for nothing, whatever was submitted and however the writes ended: known words,
texts that are not empty, and no secret, address or long run of letters and digits in them. -/
theorem soak_documented (words : Words) (turns : List Turn) : Documented words (serveAll words turns {}) :=
  serveAll_documented documented_none turns

/-- **Closed once.**  A close that was recorded found the incident open, its row stays as that close left it, and no
later close of the incident is recorded. -/
theorem incident_closed_once (words : Words) {before after_ : List Turn} {turn : Turn} {form : Form} {id : Uuid}
    (request : turn.request = .closeIncident form) (names : (parseIncidentClose form).incidentId = some id)
    (recorded : (serve words turn (serveAll words before {})).1 = .recorded) :
    (∃ record ∈ (serveAll words before {}).incidents, record.incidentId = id ∧ record.closedAt = none ∧
      closed words (parseIncidentClose form).note turn.role turn.now record ∈
        (serveAll words (before ++ turn :: after_) {}).incidents) ∧
    ∀ earlier later again form', after_ = earlier ++ again :: later → again.request = .closeIncident form' →
      (parseIncidentClose form').incidentId = some id →
      (serve words again (serveAll words (before ++ turn :: earlier) {})).1 ≠ .recorded := by
  have documented : Documented words (serveAll words before {}) := serveAll_documented documented_none before
  obtain ⟨record, member, same, still, row⟩ := close_recorded request names recorded
  have stays : ∀ turns, closed words (parseIncidentClose form).note turn.role turn.now record ∈
      (serveAll words (before ++ turn :: turns) {}).incidents := by
    intro turns
    rw [serveAll, List.foldl_append, List.foldl_cons]
    exact serveAll_closed (serve_documented documented turn) row rfl turns
  refine ⟨⟨record, member, same, still, stays after_⟩, ?_⟩
  rintro earlier later again form' rfl request' names' recorded'
  have documented' : Documented words (serveAll words (before ++ turn :: earlier) {}) :=
    serveAll_documented documented_none _
  obtain ⟨other, there, same', still', _⟩ := close_recorded request' names' recorded'
  have one : other = closed words (parseIncidentClose form).note turn.role turn.now record :=
    List.inj_on_of_nodup_map documented'.incidentIds there (stays earlier) (same'.trans same.symm)
  rw [one] at still'
  cases still'

def feedDown : Turn :=
  ⟨.openIncident fun name => if name = "cause" then "feed down".toList else [], "admin", ⟨7⟩, 0, .committed⟩

def closeForm : Form := fun name =>
  if name = "incident_id" then "00000000000000000000000000000007".toList else "restarted".toList

def feedUp : Turn := ⟨.closeIncident closeForm, "admin", ⟨8⟩, 60, .committed⟩

theorem incident_closed_once_feedDown :
    (∃ record ∈ (serveAll asciiWords [feedDown] {}).incidents, record.incidentId = ⟨7⟩ ∧ record.closedAt = none ∧
      closed asciiWords (parseIncidentClose closeForm).note feedUp.role feedUp.now record ∈
        (serveAll asciiWords ([feedDown] ++ feedUp :: [feedUp]) {}).incidents) ∧
    ∀ earlier later again form', [feedUp] = earlier ++ again :: later → again.request = .closeIncident form' →
      (parseIncidentClose form').incidentId = some ⟨7⟩ →
      (serve asciiWords again (serveAll asciiWords ([feedDown] ++ feedUp :: earlier) {})).1 ≠ .recorded :=
  incident_closed_once asciiWords rfl (by decide +kernel) (by decide +kernel)

end AlgoTrader.Api.Soak
