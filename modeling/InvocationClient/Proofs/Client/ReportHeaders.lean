import InvocationClient.Proofs.Client.ReportPath
import InvocationClient.Proofs.Client.Emissions
import InvocationClient.Proofs.Text.Utf8
import InvocationClient.Proofs.Transport.Conveyance

/-! # Header fields of error reports

A report tells the type of an error unless it is empty, and the cause of one if it is short enough
to go into a header, be it empty. A cause that is too long is dropped, and that is remarked on. Over
HTTP the value of a field is its text in UTF-8, from which the text can be read back.
-/

namespace InvocationClient

open Http (wire)

variable {cmd : Command} {type? cause? : Option String} {agent cause : String}
  {field : String × String}

/-- The commands that report an error, with the type and the cause that they report. A failure of an
invocation needs a name, and only such a failure can have a cause. -/
inductive ReportsError : Command → Option String → Option String → Prop where
  | invocation {report : ErrorReport} {id : String} : report.requestId = some id → id ≠ "" →
      ReportsError (.reportError report) report.errorType report.errorCause
  | init {payload : ByteArray} {errorType : Option String} :
      ReportsError (.reportInitError payload errorType) errorType none
  | restore {payload : ByteArray} {errorType : Option String} :
      ReportsError (.reportRestoreError payload errorType) errorType none

theorem ReportsError.cause?_eq_none {payload : ByteArray} {errorType : Option String}
    (h : ReportsError cmd type? cause?)
    (hc : cmd = .reportInitError payload errorType ∨ cmd = .reportRestoreError payload errorType) :
    cause? = none := by
  rcases hc with rfl | rfl <;> cases h <;> rfl

/-- The header fields of an error report. -/
inductive ReportField (agent : String) (type? cause? : Option String) : String × String → Prop where
  | agent : ReportField agent type? cause? ("User-Agent", agent)
  | content : ReportField agent type? cause? ("Content-Type", "application/json")
  | type {t : String} : type? = some t → t ≠ "" →
      ReportField agent type? cause? ("Lambda-Runtime-Function-Error-Type", t)
  | cause {s : String} : cause? = some s → (wire s).length < 1048576 →
      ReportField agent type? cause? ("Lambda-Runtime-Function-XRay-Error-Cause", s)

namespace Http

/-- A field as it goes over the wire: the name as it is, the value in UTF-8. -/
structure Carries (raw : String × List UInt8) (field : String × String) : Prop where
  name : raw.1 = field.1
  value : raw.2 = wire field.2
  reads : Text.Utf8.decodeString raw.2 = .ok field.2

theorem decodeString_wire (s : String) : Text.Utf8.decodeString (wire s) = .ok s := by
  rw [wire_eq_flatMap, Text.Utf8.decodeString_flatMap, String.ofList_toList]

theorem length_wire (s : String) : (wire s).length = s.utf8ByteSize := by
  rw [wire, Array.length_toList]
  rfl

end Http

namespace ErrorReport

theorem sendableCause_eq_some_iff {r : ErrorReport} :
    r.sendableCause = some cause ↔ r.errorCause = some cause ∧ (wire cause).length < 1048576 := by
  have hl : causeLimit = 1048576 := rfl
  rw [sendableCause, Http.length_wire, ← hl]
  cases r.errorCause with
  | none => simp
  | some s =>
    dsimp only
    split
    · next h => exact ⟨by rintro ⟨⟩; exact ⟨rfl, h⟩, fun hs => hs.1⟩
    · next h => exact ⟨by rintro ⟨⟩, by rintro ⟨⟨⟩, hs⟩; exact absurd hs h⟩

end ErrorReport

namespace Client

variable {c : Client} {report : ErrorReport} {t : Transport}

def reportFields (c : Client) (r : ErrorReport) : Fields :=
  ("User-Agent", c.userAgent) :: errorFields r

def causeRemark : Message where
  template := "Dropping X-Ray error cause over header size limit"

theorem mem_reportFields_iff (c : Client) (report : ErrorReport) :
    field ∈ c.reportFields report ↔
      ReportField c.userAgent report.errorType report.errorCause field := by
  simp only [reportFields, errorFields, List.mem_cons, List.mem_append, List.mem_map,
    Option.mem_toList, Option.filter_eq_some_iff, ErrorReport.sendableCause_eq_some_iff,
    decide_eq_true_eq]
  constructor
  · rintro (rfl | (rfl | ⟨s, ⟨ht, hn⟩, rfl⟩) | ⟨s, ⟨hs, hl⟩, rfl⟩)
    · exact .agent
    · exact .content
    · exact .type ht hn
    · exact .cause hs hl
  · rintro (_ | _ | ⟨ht, hn⟩ | ⟨hs, hl⟩)
    · exact .inl rfl
    · exact .inr (.inl (.inl rfl))
    · exact .inr (.inl (.inr ⟨_, ⟨ht, hn⟩, rfl⟩))
    · exact .inr (.inr ⟨_, ⟨hs, hl⟩, rfl⟩)

theorem nodup_reportFields (c : Client) (report : ErrorReport) :
    ((c.reportFields report).map Prod.fst).Nodup := by
  have hn : ["User-Agent", contentType.1, typeHeader, causeHeader].Nodup := by decide
  refine List.Nodup.sublist ?_ hn
  simp only [reportFields, errorFields]
  cases report.errorType.filter (· ≠ "") <;> cases report.sendableCause <;> simp

theorem exists_mem_causeDropped_iff (report : ErrorReport) :
    (∃ e ∈ causeDropped report, e.level = .debug ∧ e.message = causeRemark) ↔
      ∃ cause, report.errorCause = some cause ∧ report.sendableCause = none := by
  have hs : (report.errorCause.isSome && report.sendableCause.isNone) = true ↔
      ∃ cause, report.errorCause = some cause ∧ report.sendableCause = none := by
    rw [Bool.and_eq_true, Option.isSome_iff_exists, Option.isNone_iff_eq_none, exists_and_right]
  rw [← hs, causeDropped]
  split
  · next h => exact iff_of_true ⟨_, List.mem_singleton_self _, rfl, rfl⟩ h
  · next h => exact iff_of_false (fun ⟨e, he, _⟩ => nomatch he) h

section Remarks

variable {α : Type} {r : Request} {f : Failure} {o : Outcome} {e : Entry}

/-- What is logged about a request and about its outcome has something to tell. -/
def Telling (entries : List Entry) : Prop := ∀ e ∈ entries, e.message.arguments ≠ []

theorem telling_cons {level : Level} {scope : List String} {template : String} {a : Argument}
    {as : List Argument} {entries : List Entry} (h : Telling entries) :
    Telling ({ scope, level, message := ⟨template, a :: as⟩ } :: entries) :=
  List.forall_mem_cons.mpr ⟨List.cons_ne_nil a as, h⟩

theorem telling_nil : Telling [] := List.forall_mem_nil _

theorem telling_execute (t : Transport) (r : Request) : Telling (t.execute r).entries := by
  cases t with
  | injected replies => exact telling_nil
  | http connection =>
    simp only [Transport.execute, Http.Connection.execute]
    split
    · exact telling_cons telling_nil
    · refine telling_cons ?_
      cases connection.next with
      | fault thrown => exact telling_nil
      | answer a =>
        simp only [Http.Connection.receive]
        split
        · exact telling_nil
        · exact telling_cons telling_nil

theorem telling_sendFailed : Telling (c.sendFailed r f : Settled α).entries := by
  unfold sendFailed
  split
  · exact telling_cons telling_nil
  · exact telling_nil

theorem telling_expecting (status : Int) (before : List Entry) :
    Telling ((c.expecting r status before).settle o).entries := by
  cases o with
  | error f => exact telling_sendFailed
  | ok response =>
    simp only [expecting, expect]
    split
    · exact telling_nil
    · exact telling_cons telling_nil

theorem telling_reportRestoreError (payload : ByteArray) :
    Telling ((c.reportRestoreError payload type?).settle o).entries := by
  cases o with
  | error f => exact telling_sendFailed
  | ok response =>
    simp only [reportRestoreError]
    split
    · exact telling_nil
    · exact telling_cons telling_nil

/-- The remark on a cause tells nothing but itself, so it is made nowhere else. -/
theorem ne_remark_of_telling {entries : List Entry} (h : Telling entries) (he : e ∈ entries) :
    e.message ≠ causeRemark := by
  intro hm
  exact h e he (congrArg Message.arguments hm)

end Remarks

/-- An error report is an exchange that makes its request with the fields of the report and remarks
on a dropped cause before it. -/
structure Posts (c : Client) (report : ErrorReport) (x : Exchange Value) : Prop where
  headers : x.request.headers = c.reportFields report
  before : x.before = causeDropped report
  settle : ∀ o, Telling (x.settle o).entries

theorem exists_plan_of_reportsError (c : Client) (h : ReportsError cmd type? cause?) :
    ∃ x report, c.plan cmd = .exchange x ∧ c.Posts report x ∧
      report.errorType = type? ∧ report.errorCause = cause? := by
  cases h with
  | @invocation report id hi hn =>
    exact ⟨_, report, plan_of_named hi hn,
      ⟨rfl, rfl, fun _ => telling_expecting acceptedStatus (causeDropped report)⟩, rfl, rfl⟩
  | @init payload =>
    exact ⟨_, { payload, errorType := type? }, rfl,
      ⟨rfl, rfl, fun _ => telling_expecting acceptedStatus []⟩, rfl, rfl⟩
  | @restore payload =>
    exact ⟨_, { payload, errorType := type? }, rfl,
      ⟨rfl, rfl, fun _ => telling_reportRestoreError payload⟩, rfl, rfl⟩

/-- A dropped cause is remarked on, and nothing else is taken for it. -/
theorem exists_remark_iff {x : Exchange Value} (hx : c.Posts report x) (t : Transport) :
    (∃ e ∈ x.emissions t, e.level = .debug ∧ e.message = causeRemark) ↔
      ∃ cause, report.errorCause = some cause ∧ report.sendableCause = none := by
  rw [← exists_mem_causeDropped_iff, ← hx.before]
  constructor
  · rintro ⟨e, he, hl, hm⟩
    rcases List.mem_append.mp he with he | he
    · rcases List.mem_append.mp he with he | he
      · exact ⟨e, he, hl, hm⟩
      · exact absurd hm (ne_remark_of_telling (telling_execute t x.request) he)
    · exact absurd hm (ne_remark_of_telling (hx.settle _) he)
  · rintro ⟨e, he, hr⟩
    exact ⟨e, List.mem_append_left _ (List.mem_append_left _ he), hr⟩

theorem sendableCause_eq_none_iff (c : Client) (report : ErrorReport) :
    report.sendableCause = none ↔
      ∀ field ∈ c.reportFields report, field.1 ≠ "Lambda-Runtime-Function-XRay-Error-Cause" := by
  constructor
  · rintro hn field hf hc
    cases (mem_reportFields_iff c report).mp hf with
    | agent | content | type => simp at hc
    | cause hs hl =>
      rw [ErrorReport.sendableCause_eq_some_iff.mpr ⟨hs, hl⟩] at hn
      cases hn
  · intro hf
    cases hs : report.sendableCause with
    | none => rfl
    | some s =>
      obtain ⟨hc, hl⟩ := ErrorReport.sendableCause_eq_some_iff.mp hs
      exact absurd rfl (hf _ ((mem_reportFields_iff c report).mpr (.cause hc hl)))

theorem carries_call (connection : Http.Connection) (r : Request) :
    List.Forall₂ Http.Carries (connection.call r).headers r.headers := by
  simp only [Http.Connection.call, List.forall₂_map_left_iff, List.forall₂_same]
  exact fun field _ => ⟨rfl, rfl, Http.decodeString_wire field.2⟩

theorem carries_execute (connection : Http.Connection) (r : Request) :
    (∀ sent ∈ (Transport.execute (.http connection) r).sent, ∃ call, sent = .http call ∧
      List.Forall₂ Http.Carries call.headers r.headers) ∧
    (connection.refusal? r = none → (Transport.execute (.http connection) r).sent ≠ []) := by
  simp only [Transport.execute, Http.Connection.execute]
  cases connection.refusal? r with
  | some f => exact ⟨List.forall_mem_nil _, by rintro ⟨⟩⟩
  | none =>
    exact ⟨List.forall_mem_singleton.mpr ⟨_, rfl, carries_call connection r⟩,
      fun _ => List.cons_ne_nil _ _⟩

/-- The header fields of an error report, over any transport: each is given once, and the fields are
those that are listed for its type and its cause. A cause is remarked on exactly if it has no field;
the failure of a start or of a restore has none. Over HTTP the fields go as they are, with values in
UTF-8 that can be read back. -/
theorem report_headers_exact (c : Client) (h : ReportsError cmd type? cause?) :
    ∃ r : Request, c.Gives cmd r ∧ (r.headers.map Prod.fst).Nodup ∧
      (∀ field, field ∈ r.headers ↔ ReportField c.userAgent type? cause? field) ∧
      (∀ payload errorType, cmd = .reportInitError payload errorType ∨
        cmd = .reportRestoreError payload errorType →
          ∀ field ∈ r.headers, field.1 ≠ "Lambda-Runtime-Function-XRay-Error-Cause") ∧
      (∀ registry t,
        (c.perform registry t cmd).records =
          c.logger.recordAll registry ((c.plan cmd).emissions t) ∧
        ((∃ e ∈ (c.plan cmd).emissions t, e.level = .debug ∧
            e.message = ⟨"Dropping X-Ray error cause over header size limit", []⟩) ↔
          cause?.isSome = true ∧
            ∀ field ∈ r.headers, field.1 ≠ "Lambda-Runtime-Function-XRay-Error-Cause")) ∧
      ∀ registry connection,
        (∀ sent ∈ (c.perform registry (.http connection) cmd).sent, ∃ call, sent = .http call ∧
          List.Forall₂ Http.Carries call.headers r.headers) ∧
        (connection.refusal? r = none → (c.perform registry (.http connection) cmd).sent ≠ []) := by
  obtain ⟨x, report, hx, hr, rfl, rfl⟩ := c.exists_plan_of_reportsError h
  have hg := gives_of_plan hx
  refine ⟨x.request, hg, ?_, ?_, ?_, fun registry t => ⟨records_perform cmd, ?_⟩, ?_⟩
  · rw [hr.headers]
    exact nodup_reportFields c report
  · intro field
    rw [hr.headers, mem_reportFields_iff]
  · intro payload errorType hc
    rw [hr.headers, ← sendableCause_eq_none_iff, ErrorReport.sendableCause,
      h.cause?_eq_none hc]
  · rw [hx, hr.headers, ← sendableCause_eq_none_iff, Option.isSome_iff_exists, ← exists_and_right]
    exact exists_remark_iff hr t
  · intro registry connection
    rw [(hg registry (.http connection)).1]
    exact carries_execute connection x.request

def euros (n : Nat) : String := String.ofList (List.replicate n '€')

theorem length_wire_euros (n : Nat) : (wire (euros n)).length = n * 3 := by
  have hc : (String.utf8EncodeChar '€').length = 3 := by decide
  rw [Http.wire_eq_flatMap, euros, String.toList_ofList, List.length_flatMap, List.map_replicate,
    hc, List.sum_replicate_nat]

def longestCause : String := euros 349525

/-- A failure with that cause and with a type that is empty. -/
def longestReport : ErrorReport where
  payload := .empty
  requestId := some "7"
  errorType := some ""
  errorCause := some longestCause

/-- The cause has a field, and the type has none. -/
theorem report_headers_exact_longest : ∃ r : Request, sample.Gives (.reportError longestReport) r ∧
    ("Lambda-Runtime-Function-XRay-Error-Cause", longestCause) ∈ r.headers ∧
    ∀ field ∈ r.headers, field.1 ≠ "Lambda-Runtime-Function-Error-Type" := by
  have hr : ReportsError (.reportError longestReport) (some "") (some longestCause) :=
    .invocation rfl (by decide)
  have hl : (wire longestCause).length < 1048576 := by
    rw [longestCause, length_wire_euros]
    decide
  obtain ⟨r, hg, -, hf, -⟩ := report_headers_exact sample hr
  refine ⟨r, hg, (hf _).mpr (.cause rfl hl), ?_⟩
  intro field hm ht
  cases (hf field).mp hm with
  | agent | content | cause => simp at ht
  | type he hn =>
    cases he
    exact hn rfl

end Client

end InvocationClient
