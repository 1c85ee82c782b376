import InvocationClient.Proofs.Client.Confidential
import InvocationClient.Proofs.Client.Messages
import InvocationClient.Proofs.Client.Polling

/-! # Alarms

A client sounds one alarm, a warning or an error, for each operation that ends in an error of its
own, and for a restore report that is not accepted. The one failure that goes unnoticed is that of a
poll whose answer lacks the required metadata. Nothing else sounds an alarm.
-/

namespace InvocationClient.Client

open Metadata (lastValue?)

variable {α : Type} {c : Client} {registry : Registry} {t : Transport} {o : Outcome} {f : Failure}
  {r : Request} {cmd : Command} {status : Int} {response : Response}

/-- What an alarm is due for: an error of the client's own, or a restore report with another status
than that of acceptance. -/
inductive Failed (cmd : Command) : Except Failure Value → Prop where
  | raised {f : Failure} {e : ClientError} : f.error? = some e → Failed cmd (.error f)
  | restoring {payload : ByteArray} {errorType : Option String} {status : Int} :
      cmd = .reportRestoreError payload errorType → status ≠ acceptedStatus →
      Failed cmd (.ok (.status status))

def SoundsAlarm (cmd : Command) (turn : Turn Value) : Prop :=
  (Failed cmd turn.result → ∃ r, turn.records.filter Record.isAlarm = [r]) ∧
    (¬ Failed cmd turn.result → turn.records.filter Record.isAlarm = [])

inductive Incomplete : Command → Outcome → Prop where
  | answer {response : Response} : response.status = okStatus →
      (lastValue? .requestId response.headers = none ∨
        lastValue? .functionArn response.headers = none) → Incomplete .poll (.ok response)

structure Expressible (o : Outcome) : Prop where
  regular : Regular o
  status : ∀ response, o = .ok response → Number.isWritable response.status = true

/-- The alarms of what is settled: one that has a text for a failure, and none without. -/
inductive Settles (cmd : Command) (s : Settled Value) : Prop where
  | alarmed {e : Entry} : Failed cmd s.result → s.entries.filter Entry.isAlarm = [e] →
      e.scope = [] → e.message.HasText → Settles cmd s
  | quiet : ¬ Failed cmd s.result → s.entries.filter Entry.isAlarm = [] → Settles cmd s

section Settlements

variable {s : Settled Value} {e : Entry}

theorem Settles.of_alarm (hf : Failed cmd s.result) (he : s.entries = [e]) (ha : e.isAlarm = true)
    (hs : e.scope = []) (ht : ∀ e ∈ s.entries, e.message.HasText) : Settles cmd s := by
  refine .alarmed hf ?_ hs (ht e (by simp [he]))
  rw [he, List.filter_cons_of_pos ha, List.filter_nil]

theorem Expressible.transportError (h : Expressible (.error f)) :
    ∃ e, transportError? f = some e := by
  cases h.regular with
  | broken he hp => exact ⟨_, transportError?_eq_some_iff.mpr ⟨he, _, hp⟩⟩

theorem settles_sendFailed (h : Expressible (.error f)) (g : α → Value) :
    Settles cmd ⟨(c.sendFailed r f : Settled α).result.map g,
      (c.sendFailed r f : Settled α).entries⟩ := by
  obtain ⟨e, he⟩ := h.transportError
  have ht := hasText_sendFailed (c := c) (r := r) (α := α) f
  simp only [sendFailed, he] at ht ⊢
  exact .of_alarm (.raised rfl) rfl rfl rfl ht

theorem settles_expecting {before : List Entry} (hs : Number.isWritable status = true)
    (ho : Expressible o) :
    Settles cmd (((c.expecting r status before).map fun _ => .nothing).settle o) := by
  cases o with
  | error f => exact settles_sendFailed ho _
  | ok response =>
    have hw := ho.status response rfl
    have ht := hasText_expect (c := c) r.path hs hw
    by_cases h : response.status = status
    · simp only [Exchange.map, expecting, expect, if_pos h]
      exact .quiet (by rintro ⟨⟩) rfl
    · simp only [Exchange.map, expecting, expect, if_neg h, reportRefused_of_writable hw] at ht ⊢
      exact .of_alarm (.raised rfl) rfl rfl rfl ht

theorem settles_reportRestoreError {payload : ByteArray} {errorType : Option String}
    (ho : Expressible o) :
    Settles (.reportRestoreError payload errorType)
      (((c.reportRestoreError payload errorType).map Value.status).settle o) := by
  cases o with
  | error f => exact settles_sendFailed ho _
  | ok response =>
    have ht := hasText_restoring (c := c) payload errorType (ho.status response rfl)
    by_cases h : response.status = acceptedStatus
    · simp only [Exchange.map, reportRestoreError, if_pos h]
      refine .quiet ?_ rfl
      rintro (_ | ⟨_, hn⟩)
      exact hn h
    · simp only [Exchange.map, reportRestoreError, if_neg h] at ht ⊢
      exact .of_alarm (.restoring rfl h) rfl rfl rfl ht

theorem settles_pollAnswered (hs : response.status = okStatus)
    (hc : ¬ Incomplete .poll (.ok response)) :
    Settles .poll ⟨(pollAnswered response).result.map Value.invocation,
      (pollAnswered response).entries⟩ := by
  simp only [pollAnswered]
  split
  · next f hf =>
    rcases Metadata.extract_eq_error_iff.mp hf with
      ⟨hi, -⟩ | ⟨id, -, ha, -⟩ | ⟨id, arn, -, -, hd⟩
    · exact absurd (.answer hs (.inl hi)) hc
    · exact absurd (.answer hs (.inr ha)) hc
    · obtain ⟨_, _, _, _, _, _, rfl⟩ := Deadline.parse_eq_error_iff.mp hd
      refine .quiet ?_ rfl
      rintro (he | _)
      cases he
  · exact .quiet (by rintro ⟨⟩) rfl

theorem settles_poll (ho : Expressible o) (hc : ¬ Incomplete .poll o) :
    Settles .poll ((c.poll.map Value.invocation).settle o) := by
  cases o with
  | error f =>
    obtain ⟨e, he⟩ := ho.transportError
    simp only [Exchange.map, poll, he]
    exact .of_alarm (.raised rfl) rfl rfl rfl
      (hasText_pollBroken (c.baseUrl ++ Path.nextInvocation) e f)
  | ok response =>
    by_cases hs : response.status = okStatus
    · simp only [Exchange.map, poll, if_pos hs]
      exact settles_pollAnswered hs hc
    · have hw := ho.status response rfl
      have ht := hasText_pollRefused (c.baseUrl ++ Path.nextInvocation) hw
      simp only [Exchange.map, poll, if_neg hs]
      simp only [pollRefused, Number.Writable.ofInt?_eq_some hw] at ht ⊢
      exact .of_alarm (.raised rfl) rfl rfl rfl ht

theorem extract_of_incomplete (h : Incomplete cmd (.ok response)) :
    ∃ f context, Metadata.extract response.headers (some response.body) =
      .error (Metadata.missing f context) := by
  obtain ⟨-, hm⟩ := h
  cases hi : lastValue? .requestId response.headers with
  | none => exact ⟨_, _, Metadata.extract_of_id_missing hi⟩
  | some id => exact ⟨_, _, Metadata.extract_of_arn_missing hi (hm.resolve_left (by simp [hi]))⟩

/-- The failure of a poll with an incomplete answer is the client's own, and nothing is logged. -/
theorem settle_of_incomplete (h : Incomplete cmd o) : cmd = .poll ∧
    Failed .poll ((c.poll.map Value.invocation).settle o).result ∧
      ((c.poll.map Value.invocation).settle o).entries = [] := by
  have hi := h
  obtain ⟨hs, -⟩ := hi
  obtain ⟨field, context, hx⟩ := extract_of_incomplete h
  simp only [Exchange.map, poll, if_pos hs, pollAnswered, hx]
  exact ⟨trivial, .raised rfl, trivial⟩

end Settlements

section Commands

/-- Every command sounds its alarm when its outcome is settled, but for a poll that is answered
incompletely. -/
theorem settles_of_planned {x : Exchange Value} (h : Planned c cmd x) (ho : Expressible o)
    (hc : ¬ Incomplete cmd o) : Settles cmd (x.settle o) := by
  cases h with
  | poll => exact settles_poll ho hc
  | expecting _ hs _ =>
    refine settles_expecting ?_ ho
    rcases hs with rfl | rfl <;> decide
  | restoring => exact settles_reportRestoreError ho

theorem not_failed_of_settled {result : Except Failure Value}
    (h : c.plan cmd = .settled result) : ¬ Failed cmd result := by
  rcases settled_cases h with rfl | rfl
  · rintro (he | _)
    cases he
  · rintro ⟨⟩

theorem filter_before {x : Exchange Value} (h : Planned c cmd x) :
    x.before.filter Entry.isAlarm = [] := by
  cases h with
  | poll => rfl
  | expecting _ _ hd =>
    rcases hd with rfl | ⟨report, rfl⟩
    · rfl
    · simp only [Exchange.map, expecting, causeDropped]
      split <;> rfl
  | restoring => rfl

theorem filter_execute (t : Transport) (r : Request) :
    (t.execute r).entries.filter Entry.isAlarm = [] := by
  cases t with
  | injected replies => rfl
  | http connection =>
    simp only [Transport.execute, Http.Connection.execute]
    cases connection.refusal? r with
    | some f => rfl
    | none =>
      cases connection.next with
      | fault thrown => rfl
      | answer a =>
        simp only [Http.Connection.receive]
        split <;> rfl

theorem filter_emissions {x : Exchange Value} (h : Planned c cmd x) :
    (x.emissions t).filter Entry.isAlarm =
      (x.settle (t.execute x.request).outcome).entries.filter Entry.isAlarm := by
  simp only [Exchange.emissions, List.filter_append, filter_before h, filter_execute,
    List.nil_append]

theorem soundsAlarm_of_settles {x : Exchange Value} (hl : c.logger.RecordsFrom registry .warn)
    (h : Planned c cmd x) (hs : Settles cmd (x.settle (t.execute x.request).outcome)) :
    SoundsAlarm cmd (c.carryOut registry t x) := by
  have he := filter_emissions (t := t) h
  cases hs with
  | alarmed hf ha hscope ht =>
    have hn := Logger.length_filter_recordAll hl (x.emissions t)
      (by rw [he, ha]; exact List.forall_mem_singleton.mpr ⟨hscope, ht⟩)
    rw [he, ha] at hn
    exact ⟨fun _ => List.length_eq_one_iff.mp hn, fun hq => absurd hf hq⟩
  | quiet hf ha =>
    exact ⟨fun hq => absurd hq hf, fun _ => Logger.filter_recordAll_of_quiet (he.trans ha)⟩

theorem unnoticed_of_incomplete (registry : Registry) {x : Exchange Value} (h : c.plan cmd = .exchange x)
    (hi : Incomplete cmd (t.execute x.request).outcome) :
    Failed cmd (c.carryOut registry t x).result ∧
      (c.carryOut registry t x).records.filter Record.isAlarm = [] := by
  have he := filter_emissions (t := t) (planned_of_exchange h)
  obtain ⟨rfl, hf, hs⟩ := settle_of_incomplete (c := c) hi
  cases h
  rw [hs] at he
  exact ⟨hf, Logger.filter_recordAll_of_quiet he⟩

theorem not_soundsAlarm {turn : Turn Value} (hf : Failed cmd turn.result)
    (hr : turn.records.filter Record.isAlarm = []) : ¬ SoundsAlarm cmd turn := by
  intro hs
  obtain ⟨r, h⟩ := hs.1 hf
  rw [hr] at h
  cases h

end Commands

/-- With a logger that records alarms, a command sounds one exactly when it should, unless it is a
poll that is answered incompletely. Such a poll fails without an alarm. -/
theorem soundsAlarm_iff (c : Client) (registry : Registry) (t : Transport) (cmd : Command)
    (hl : c.logger.RecordsFrom registry .warn)
    (ho : ∀ o, (c.plan cmd).outcome? t = some o → Expressible o) :
    (SoundsAlarm cmd (c.perform registry t cmd) ↔
        ∀ o, (c.plan cmd).outcome? t = some o → ¬ Incomplete cmd o) ∧
      ∀ o, (c.plan cmd).outcome? t = some o → Incomplete cmd o →
        Failed cmd (c.perform registry t cmd).result ∧
          (c.perform registry t cmd).records.filter Record.isAlarm = [] := by
  rw [perform_eq_run]
  cases h : c.plan cmd with
  | exchange x =>
    simp only [h, Plan.outcome?, Option.some.injEq, forall_eq', Plan.run] at ho ⊢
    have hx := planned_of_exchange h
    refine ⟨⟨fun hs hi => ?_, fun hc => soundsAlarm_of_settles hl hx (settles_of_planned hx ho hc)⟩,
      unnoticed_of_incomplete registry h⟩
    obtain ⟨hf, hr⟩ := unnoticed_of_incomplete registry h hi
    exact not_soundsAlarm hf hr hs
  | settled result =>
    have hs : SoundsAlarm cmd { result, transport := t } :=
      ⟨fun hf => absurd hf (not_failed_of_settled h), fun _ => rfl⟩
    exact ⟨iff_of_true hs (by rintro o ⟨⟩), by rintro o ⟨⟩⟩
  | closing =>
    have hs : SoundsAlarm cmd { result := .ok .nothing, transport := t.close } :=
      ⟨by rintro ⟨⟩, fun _ => rfl⟩
    exact ⟨iff_of_true hs (by rintro o ⟨⟩), by rintro o ⟨⟩⟩

section Samples

theorem recordsFrom_verbose (registry : Registry) : verbose.logger.RecordsFrom registry .warn :=
  Logger.recordsFrom_of_object rfl rfl (by decide)

theorem expressible_bare {status : Int} (h : Number.isWritable status = true) :
    Expressible (.ok { status }) where
  regular := .answer _
  status := by
    rintro response ⟨⟩
    exact h

theorem soundsAlarm_refused :
    verbose.logger.RecordsFrom {} .warn ∧ Expressible (.ok { status := 503 }) ∧
      SoundsAlarm (.reportSuccess "7" .empty)
        (verbose.perform {} (.injected [.ok { status := 503 }]) (.reportSuccess "7" .empty)) := by
  have ho : Expressible (.ok { status := 503 }) := expressible_bare (by decide)
  refine ⟨recordsFrom_verbose {}, ho, (soundsAlarm_iff verbose {} (.injected [.ok { status := 503 }])
    (.reportSuccess "7" .empty) (recordsFrom_verbose {}) ?_).1.mpr ?_⟩
  · rintro o ⟨⟩
    exact ho
  · rintro o ⟨⟩ ⟨⟩

/-- An answer to a poll without any header fields. -/
theorem unnoticed_bare_answer :
    verbose.logger.RecordsFrom {} .warn ∧ Expressible (.ok { status := okStatus }) ∧
      ¬ SoundsAlarm .poll (verbose.perform {} (.injected [.ok { status := okStatus }]) .poll) := by
  refine ⟨recordsFrom_verbose {}, expressible_bare (by decide), ?_⟩
  rw [perform_eq_run]
  have hi : Incomplete .poll (.ok { status := okStatus }) := .answer rfl (.inl rfl)
  obtain ⟨hf, hr⟩ := unnoticed_of_incomplete (c := verbose)
    (t := .injected [.ok { status := okStatus }]) {} rfl hi
  exact not_soundsAlarm hf hr

end Samples

end InvocationClient.Client
