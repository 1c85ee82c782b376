import InvocationClient.Client.Session

/-! # What outcomes come to

A poll yields an invocation from an answer with the expected status and the required metadata. Other
exchanges are over once they are answered with the status they expect. A turn is the outcome of one
request settled.
-/

namespace InvocationClient.Client

variable {α : Type} {c : Client} {o : Outcome} {f : Failure}

/-- What a poll takes an invocation from. -/
inductive Yields : Outcome → Invocation → Prop where
  | answered {response : Response} {i : Invocation} : response.status = okStatus →
      Metadata.extract response.headers (some response.body) = .ok i → Yields (.ok response) i

def Accepts (status : Int) (o : Outcome) : Prop :=
  ∃ response : Response, o = .ok response ∧ response.status = status

theorem transportError?_eq_some_iff {e : ClientError} :
    transportError? f = some e ↔ f.error? = some e ∧ ∃ message, e.problem = .transport message := by
  unfold transportError?
  cases f.error? with
  | none => simp
  | some e' =>
    obtain ⟨problem, context⟩ := e'
    constructor
    · intro h
      cases problem <;> cases h
      exact ⟨rfl, _, rfl⟩
    · rintro ⟨h, message, he⟩
      cases h; cases he
      rfl

theorem pollAnswered_result (response : Response) :
    (pollAnswered response).result = Metadata.extract response.headers (some response.body) := by
  unfold pollAnswered
  split <;> simp_all

theorem poll_result_of_answer {response : Response} (h : response.status = okStatus) :
    (c.poll.settle (.ok response)).result =
      Metadata.extract response.headers (some response.body) := by
  simp only [poll, if_pos h, pollAnswered_result]

theorem poll_result_of_refusal {response : Response} (h : response.status ≠ okStatus) :
    (c.poll.settle (.ok response)).result =
      (pollRefused (c.baseUrl ++ Path.nextInvocation) response.status).result := by
  simp only [poll, if_neg h]

theorem poll_result_of_status {response : Response} (h : response.status ≠ okStatus)
    (hw : Number.isWritable response.status = true) :
    (c.poll.settle (.ok response)).result =
      .error (.because
        ⟨.nextInvocation (c.baseUrl ++ Path.nextInvocation) (some ⟨response.status, hw⟩), .absent⟩
        (.client ⟨.report (c.baseUrl ++ Path.nextInvocation) ⟨response.status, hw⟩, .absent⟩)) := by
  rw [poll_result_of_refusal h, pollRefused, Number.Writable.ofInt?_eq_some hw]

theorem poll_result_of_untold {response : Response} (h : response.status ≠ okStatus)
    (hw : Number.isWritable response.status = false) :
    (c.poll.settle (.ok response)).result = .error .unwritableInteger := by
  rw [poll_result_of_refusal h, pollRefused, Number.Writable.ofInt?_eq_none hw]

theorem poll_result_of_transportError {e : ClientError} (h : transportError? f = some e) :
    (c.poll.settle (.error f)).result =
      .error (.because ⟨.nextInvocation (c.baseUrl ++ Path.nextInvocation) none, e.context⟩ f) := by
  simp only [poll, h, pollBroken]

theorem poll_result_of_other (h : transportError? f = none) :
    (c.poll.settle (.error f)).result = .error f := by
  simp only [poll, h]

theorem poll_eq_ok_iff {i : Invocation} : (c.poll.settle o).result = .ok i ↔ Yields o i := by
  constructor
  · intro h
    cases o with
    | error f =>
      cases he : transportError? f with
      | none => simp [poll_result_of_other he] at h
      | some e => simp [poll_result_of_transportError he] at h
    | ok response =>
      by_cases hs : response.status = okStatus
      · exact .answered hs (poll_result_of_answer hs ▸ h)
      · simp [poll_result_of_refusal hs, pollRefused] at h
  · rintro ⟨hs, hi⟩
    rw [poll_result_of_answer hs, hi]

theorem reportRefused_of_writable {url : String} {response : Response}
    (h : Number.isWritable response.status = true) :
    reportRefused url response =
      .client ⟨.report url ⟨response.status, h⟩, .bytes response.body⟩ := by
  rw [reportRefused, Number.Writable.ofInt?_eq_some h]

theorem reportRefused_of_untold {url : String} {response : Response}
    (h : Number.isWritable response.status = false) :
    reportRefused url response = .unwritableInteger := by
  rw [reportRefused, Number.Writable.ofInt?_eq_none h]

theorem expect_eq_ok_iff {path : String} {status : Int} {response : Response} :
    (c.expect path status response).result = .ok () ↔ response.status = status := by
  unfold expect
  split <;> simp_all

theorem sendFailed_ne_ok {r : Request} {a : α} : (c.sendFailed r f : Settled α).result ≠ .ok a := by
  unfold sendFailed
  split <;> simp

theorem expecting_eq_ok_iff {r : Request} {status : Int} {before : List Entry} :
    ((c.expecting r status before).settle o).result = .ok () ↔ Accepts status o := by
  cases o with
  | error f =>
    constructor
    · intro h; exact (sendFailed_ne_ok h).elim
    · rintro ⟨response, h, -⟩; cases h
  | ok response =>
    refine expect_eq_ok_iff.trans ⟨fun h => ⟨response, rfl, h⟩, ?_⟩
    rintro ⟨response', h, hs⟩
    cases h; exact hs

/-- An error report is only refused for want of a name. -/
theorem reportError_of_named {report : ErrorReport} {id : String} (h : report.requestId = some id)
    (hn : id ≠ "") : c.reportError report =
      .ok (c.expecting (c.postError (Path.error id) report) acceptedStatus
        (causeDropped report)) := by
  simp only [reportError, h, if_neg hn]

theorem reportError_of_unnamed {report : ErrorReport}
    (h : report.requestId = none ∨ report.requestId = some "") :
    c.reportError report = .error .requestIdRequired := by
  rcases h with h | h <;> simp [reportError, h]

theorem carryOut_result {registry : Registry} {t : Transport} {x : Exchange α} :
    (c.carryOut registry t x).result = (x.settle (t.execute x.request).outcome).result := rfl

/-- A client for an endpoint on this machine, with no options. -/
def sample : Client where
  endpoint := ⟨"127.0.0.1", 9001⟩
  userAgent := defaultUserAgent "3.11.0"
  pollTimeout := 3600.0
  requestTimeout := 30.0
  logger := ⟨.default, .info⟩

theorem make_sample : (make {} [] "3.11.0" {} (some "127.0.0.1:9001")).result = .ok sample := rfl

end InvocationClient.Client
