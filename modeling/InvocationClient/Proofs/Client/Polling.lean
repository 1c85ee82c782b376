import InvocationClient.Proofs.Client.Requests
import InvocationClient.Proofs.Invocation.Deadline
import InvocationClient.Proofs.Invocation.Metadata

/-! # Polling

What a poll ends with. Apart from an invocation there are two documented failures. Others come from
numbers with too many digits: from a deadline that cannot be read, and from a status that cannot be
told. An invocation can be reported on if it has a name, which an answer may leave empty.
-/

namespace InvocationClient.Client

open Metadata (lastValue? describe)
open Text.Percent (Names encode names_encode)

variable {c : Client} {registry : Registry} {t : Transport} {o : Outcome} {i : Invocation} {n : Nat}

/-- What a transport is documented to come back with: an answer or a transport error. -/
inductive Regular : Outcome → Prop where
  | answer (response : Response) : Regular (.ok response)
  | broken {f : Failure} {e : ClientError} {message : String} : f.error? = some e →
      e.problem = .transport message → Regular (.error f)

/-- The failures that a poll is documented to end with. -/
def IsPollFailure (f : Failure) : Prop :=
  ∃ e, f.error? = some e ∧
    ((∃ url status, e.problem = .nextInvocation url status) ∨
      ∃ field, e.problem = .missingMetadata field)

def Documented : Except Failure Invocation → Prop
  | .ok _ => True
  | .error f => IsPollFailure f

/-- An answer with all that an invocation needs, and a deadline of `n` digits, more than can be
read. -/
inductive Overlong : Outcome → Nat → Prop where
  | answer {response : Response} {id arn text : String} {negative : Bool} {digits : List Char} :
      response.status = 200 →
      lastValue? .requestId response.headers = some id →
      lastValue? .functionArn response.headers = some arn →
      lastValue? .deadline response.headers = some text →
      Deadline.Plain text.toList negative digits → Number.digitLimit < digits.length →
      Overlong (.ok response) digits.length

/-- An answer with another status, one with more digits than can be written. -/
inductive Untold : Outcome → Prop where
  | answer {response : Response} : response.status ≠ 200 →
      Number.isWritable response.status = false → Untold (.ok response)

theorem isPollFailure_nextInvocation {url : String} {status : Option Number.Writable}
    {context : Context}
    {f : Failure} : IsPollFailure (.because ⟨.nextInvocation url status, context⟩ f) :=
  ⟨_, rfl, Or.inl ⟨_, _, rfl⟩⟩

theorem isPollFailure_missing (f : Metadata.Field) (context : Context) :
    IsPollFailure (Metadata.missing f context) :=
  ⟨_, rfl, Or.inr ⟨_, rfl⟩⟩

theorem not_documented_tooManyDigits : ¬ Documented (.error (.tooManyDigits n)) := by
  rintro ⟨e, h, -⟩
  cases h

theorem not_documented_unwritableInteger : ¬ Documented (.error .unwritableInteger) := by
  rintro ⟨e, h, -⟩
  cases h

theorem poll_of_untold (h : Untold o) : (c.poll.settle o).result = .error .unwritableInteger := by
  cases h with
  | answer hs hw => exact poll_result_of_untold hs hw

theorem poll_of_overlong (h : Overlong o n) :
    (c.poll.settle o).result = .error (.tooManyDigits n) := by
  cases h with
  | answer hs hi ha hd hp hl =>
    rw [poll_result_of_answer hs, Metadata.extract_of_required hi ha,
      Deadline.parse_eq_error_iff.mpr ⟨_, _, _, hd, hp, hl, rfl⟩]
    rfl

/-- Reading an answer only fails for want of a required field, or on the deadline. -/
theorem documented_or_overlong_of_answer {response : Response} (hs : response.status = okStatus) :
    Documented (Metadata.extract response.headers (some response.body)) ∨
      ∃ n, Overlong (.ok response) n := by
  cases hx : Metadata.extract response.headers (some response.body) with
  | ok i => exact Or.inl trivial
  | error f =>
    rcases Metadata.extract_eq_error_iff.mp hx with
      ⟨-, rfl⟩ | ⟨id, -, -, rfl⟩ | ⟨id, arn, hi, ha, hd⟩
    · exact Or.inl (isPollFailure_missing ..)
    · exact Or.inl (isPollFailure_missing ..)
    · obtain ⟨text, negative, digits, hv, hp, hl, rfl⟩ := Deadline.parse_eq_error_iff.mp hd
      exact Or.inr ⟨_, .answer hs hi ha hv hp hl⟩

theorem documented_or_lengthy (h : Regular o) :
    Documented (c.poll.settle o).result ∨ (∃ n, Overlong o n) ∨ Untold o := by
  cases h with
  | broken he hp =>
    have ht := transportError?_eq_some_iff.mpr ⟨he, _, hp⟩
    rw [poll_result_of_transportError ht]
    exact Or.inl isPollFailure_nextInvocation
  | answer response =>
    by_cases hs : response.status = okStatus
    · rw [poll_result_of_answer hs]
      exact (documented_or_overlong_of_answer hs).imp_right .inl
    · cases hw : Number.isWritable response.status with
      | true =>
        rw [poll_result_of_status hs hw]
        exact .inl isPollFailure_nextInvocation
      | false => exact .inr (.inr (.answer hs hw))

section Samples

def sampleArn : String := "arn:aws:lambda:eu-west-1:1:function:f"

def answerTo (id deadline : String) : Response where
  status := okStatus
  headers := [
    (Metadata.Field.requestId.header, id),
    (Metadata.Field.functionArn.header, sampleArn),
    (Metadata.Field.deadline.header, deadline)]

theorem lastValue?_answerTo (id deadline : String) :
    lastValue? .requestId (answerTo id deadline).headers = some id ∧
      lastValue? .functionArn (answerTo id deadline).headers = some sampleArn ∧
      lastValue? .deadline (answerTo id deadline).headers = some deadline := by
  simp [answerTo, Metadata.lastValue?_header]

def ones (n : Nat) : String := String.ofList (List.replicate n '1')

theorem overlong_ones (h : Number.digitLimit < n) : Overlong (.ok (answerTo "7" (ones n))) n := by
  obtain ⟨hi, ha, hd⟩ := lastValue?_answerTo "7" (ones n)
  have hp : Deadline.Plain (ones n).toList false (List.replicate n '1') := by
    rw [ones, String.toList_ofList]
    refine .unsigned ⟨?_, fun d hd => ?_⟩
    · rw [Number.digitLimit] at h
      simp only [ne_eq, List.replicate_eq_nil_iff]
      omega
    · rw [List.eq_of_mem_replicate hd]
      decide
  simpa using Overlong.answer rfl hi ha hd hp (by simpa using h)

theorem poll_answerTo (id : String) :
    ∃ i, (sample.carryOut {} (.injected [.ok (answerTo id "1500")]) sample.poll).result = .ok i ∧
      i.id = id := by
  obtain ⟨hi, ha, hd⟩ := lastValue?_answerTo id "1500"
  refine ⟨describe (answerTo id "1500").headers (some .empty) id sampleArn 1500, ?_, rfl⟩
  rw [carryOut_result]
  refine poll_eq_ok_iff.mpr (.answered rfl (Metadata.extract_eq_ok_iff.mpr ⟨hi, ha, ?_, rfl⟩))
  rw [hd]
  rfl

end Samples

/-- A poll ends as it is documented to exactly if the deadline of an expected answer can be read and
the status of another one can be told, and otherwise with the failure that this came to. -/
theorem poll_documented_iff (c : Client) (registry : Registry) (t : Transport)
    (h : Regular (t.execute c.poll.request).outcome) :
    (Documented (c.carryOut registry t c.poll).result ↔
      (∀ n, ¬ Overlong (t.execute c.poll.request).outcome n) ∧
        ¬ Untold (t.execute c.poll.request).outcome) ∧
    (∀ n, Overlong (t.execute c.poll.request).outcome n →
      (c.carryOut registry t c.poll).result = .error (.tooManyDigits n)) ∧
    (Untold (t.execute c.poll.request).outcome →
      (c.carryOut registry t c.poll).result = .error .unwritableInteger) := by
  rw [carryOut_result]
  refine ⟨⟨?_, ?_⟩, fun n => poll_of_overlong, poll_of_untold⟩
  · intro hd
    constructor
    · intro n hn
      rw [poll_of_overlong hn] at hd
      exact not_documented_tooManyDigits hd
    · intro hu
      rw [poll_of_untold hu] at hd
      exact not_documented_unwritableInteger hd
  · rintro ⟨hn, hu⟩
    rcases documented_or_lengthy (c := c) h with hd | ⟨n, ho⟩ | ho
    · exact hd
    · exact absurd ho (hn n)
    · exact absurd ho hu

theorem poll_documented_ones :
    Regular ((Transport.injected [.ok (answerTo "7" (ones 4301))]).execute
        sample.poll.request).outcome ∧
      (sample.carryOut {} (.injected [.ok (answerTo "7" (ones 4301))]) sample.poll).result =
        .error (.tooManyDigits 4301) :=
  ⟨.answer _, (poll_documented_iff sample {} (.injected [.ok (answerTo "7" (ones 4301))])
    (.answer _)).2.1 4301 (overlong_ones (by decide))⟩

/-- A deadline of 4301 digits ends a poll with a failure that is not documented. -/
theorem poll_undocumented_of_ones :
    ¬ Documented
      (sample.carryOut {} (.injected [.ok (answerTo "7" (ones 4301))]) sample.poll).result := by
  have h : (sample.carryOut {} (.injected [.ok (answerTo "7" (ones 4301))]) sample.poll).result =
      .error (.tooManyDigits 4301) := by
    rw [carryOut_result]
    exact poll_of_overlong (overlong_ones (by decide))
  rw [h]
  exact not_documented_tooManyDigits

def posting (c : Client) (path : String) (extra : Fields) (body : ByteArray) : Request where
  method := "POST"
  path := path
  headers := ("User-Agent", c.userAgent) :: extra
  body := some body
  timeout := some c.requestTimeout

/-- The fields that tell of a failure, whose kind may be without a name. -/
def failureFields (f : Failure) : Fields :=
  ("Content-Type", "application/json") ::
    if f.kind = "" then [] else [("Lambda-Runtime-Function-Error-Type", f.kind)]

theorem errorFields_ofFailure (f : Failure) (trace : List Frame) (id : Option String) :
    errorFields (.ofFailure f trace id) = failureFields f := by
  unfold errorFields failureFields
  by_cases hk : f.kind = ""
  · simp [ErrorReport.ofFailure, ErrorReport.sendableCause, hk, contentType]
  · simp [ErrorReport.ofFailure, ErrorReport.sendableCause, hk, contentType, typeHeader]

/-- Every failure can be reported for the invocation, by one request to its error path. -/
def Reportable (c : Client) (i : Invocation) : Prop :=
  ∀ (f : Failure) (trace : List Frame), ∃ name, Names name i.id ∧
    let r := posting c ("/2018-06-01/runtime/invocation/" ++ name ++ "/error") (failureFields f)
      (ErrorReport.ofFailure f trace (some i.id)).payload
    (∃ x, c.reportError (.ofFailure f trace (some i.id)) = .ok x ∧ x.request = r) ∧
      ∀ (registry : Registry) (replies : List Outcome),
        (c.carryOut? registry (.injected replies)
            (c.reportError (.ofFailure f trace (some i.id)))).sent = [.direct r]

/-- No failure can be reported for the invocation, and nothing is sent. -/
def Unreportable (c : Client) (i : Invocation) : Prop :=
  ∀ (f : Failure) (trace : List Frame) (registry : Registry) (t : Transport),
    c.carryOut? registry t (c.reportError (.ofFailure f trace (some i.id))) =
      { result := .error .requestIdRequired, transport := t }

theorem reportable_of_named (c : Client) (h : i.id ≠ "") : Reportable c i := by
  intro f trace
  have hp : c.postError (Path.error i.id) (.ofFailure f trace (some i.id)) =
      posting c ("/2018-06-01/runtime/invocation/" ++ encode i.id ++ "/error") (failureFields f)
        (ErrorReport.ofFailure f trace (some i.id)).payload := by
    rw [postError, errorFields_ofFailure, Path.error_eq]
    rfl
  refine ⟨encode i.id, names_encode i.id, ?_⟩
  rw [reportError_of_named (ErrorReport.requestId_ofFailure ..) h, hp]
  exact ⟨⟨_, rfl, rfl⟩, fun registry replies => rfl⟩

theorem unreportable_of_unnamed (c : Client) (h : i.id = "") : Unreportable c i := by
  intro f trace registry t
  rw [reportError_of_unnamed (.inr (by rw [ErrorReport.requestId_ofFailure, h]))]
  rfl

/-- A polled invocation has the last values of its two required fields, and can be reported on
exactly if its name is not empty. -/
theorem polled_reportable_iff (h : (c.carryOut registry t c.poll).result = .ok i) :
    ∃ response, (t.execute c.poll.request).outcome = .ok response ∧
      ((i.id ≠ "" ∧ i.functionArn ≠ "") ↔
        lastValue? .requestId response.headers ≠ some "" ∧
          lastValue? .functionArn response.headers ≠ some "") ∧
      (lastValue? .requestId response.headers ≠ some "" → Reportable c i) ∧
      (lastValue? .requestId response.headers = some "" → Unreportable c i) := by
  rw [carryOut_result, poll_eq_ok_iff] at h
  generalize (t.execute c.poll.request).outcome = o at h ⊢
  obtain ⟨hs, hx⟩ := h
  obtain ⟨hi, ha, -, -⟩ := Metadata.extract_eq_ok_iff.mp hx
  refine ⟨_, rfl, by simp [hi, ha], ?_⟩
  rw [hi, ne_eq, Option.some.injEq]
  exact ⟨reportable_of_named c, unreportable_of_unnamed c⟩

theorem polled_reportable_seven : ∃ i,
    (sample.carryOut {} (.injected [.ok (answerTo "7" "1500")]) sample.poll).result = .ok i ∧
      Reportable sample i := by
  obtain ⟨i, h, -⟩ := poll_answerTo "7"
  obtain ⟨response, ho, -, hr, -⟩ := polled_reportable_iff h
  cases ho
  exact ⟨i, h, hr (by simp [(lastValue?_answerTo "7" "1500").1])⟩

/-- An answer with an empty name yields an invocation that cannot be reported on. -/
theorem polled_unreportable : ∃ i,
    (sample.carryOut {} (.injected [.ok (answerTo "" "1500")]) sample.poll).result = .ok i ∧
      i.id = "" ∧ Unreportable sample i := by
  obtain ⟨i, h, hi⟩ := poll_answerTo ""
  exact ⟨i, h, hi, unreportable_of_unnamed sample hi⟩

end InvocationClient.Client
