import InvocationClient.Loop
import InvocationClient.Proofs.Client.PollOutcome
import InvocationClient.Proofs.Client.ReportOutcome
import InvocationClient.Proofs.Report.Document

/-! # The invocation protocol

A run polls and reports by turns. A report is for the invocation that the poll right before it
yielded, and only an accepted report is followed by another poll. Nothing follows the first failure.
A handler that cannot be loaded is reported instead, and nothing else is asked.
-/

namespace InvocationClient

/-- A request as it was handed to a transport, and what came back. -/
structure Attempt where
  request : Request
  outcome : Outcome

namespace Transport

def attempt (t : Transport) (r : Request) : Attempt := ⟨r, (t.execute r).outcome⟩

/-- The attempts are made in their order, with `sent` going out, and leave the transport as the last
one. -/
inductive Carries : Transport → List Attempt → List Sent → Transport → Prop where
  | nil {t : Transport} : Carries t [] [] t
  | cons {t u : Transport} {r : Request} {attempts : List Attempt} {sent : List Sent} :
      Carries (t.execute r).transport attempts sent u →
      Carries t (t.attempt r :: attempts) ((t.execute r).sent ++ sent) u

variable {t u : Transport} {r : Request} {attempts : List Attempt} {sent : List Sent}

theorem Carries.single (t : Transport) (r : Request) :
    t.Carries [t.attempt r] (t.execute r).sent (t.execute r).transport := by
  simpa using Carries.cons (t := t) (r := r) .nil

/-- An injected transport is handed each request as it is, and answers by its next reply. -/
theorem Carries.of_injected {replies : List Outcome}
    (h : (injected replies).Carries attempts sent u) :
    sent = attempts.map (fun a => Sent.direct a.request) ∧
      u = injected (replies.drop attempts.length) ∧
      ∀ (k : Nat) (a : Attempt), attempts[k]? = some a →
        a.outcome = replies[k]?.getD exhausted := by
  induction attempts generalizing replies sent with
  | nil =>
    cases h
    exact ⟨rfl, rfl, fun k a h => by simp at h⟩
  | cons a attempts ih =>
    cases h with
    | @cons _ _ r _ sent h =>
      obtain ⟨rfl, rfl, ho⟩ := ih h
      refine ⟨rfl, by simp, ?_⟩
      rintro (_ | k) a ha
      · obtain rfl : (injected replies).attempt r = a := by simpa using ha
        simp [attempt, execute, List.head?_eq_getElem?]
      · simpa using ho k a (by simpa using ha)

end Transport

namespace Loop

open Client
open Text.Percent (Names encode names_encode)

variable {c : Client} {registry : Registry} {trace : Failure → List Frame} {handler : Handler}
  {t : Transport} {i : Invocation} {f : Failure}

def asking (c : Client) : Request where
  method := "GET"
  path := "/2018-06-01/runtime/invocation/next"
  headers := [("User-Agent", c.userAgent)]
  timeout := some c.pollTimeout

def Polls (c : Client) : Outcome → Except Failure Invocation → Prop :=
  PollsTo (c.baseUrl ++ "/2018-06-01/runtime/invocation/next")

/-- The report that is due for an invocation, and the status that accepts it. There is none for the
failure of an invocation without a name. -/
inductive Due (c : Client) (trace : Failure → List Frame) (handler : Handler) (i : Invocation) :
    Request → Int → Prop where
  | answer {name : String} {payload : ByteArray} : handler i = .ok payload → Names name i.id →
      Due c trace handler i
        (posting c ("/2018-06-01/runtime/invocation/" ++ name ++ "/response") [] payload) 200
  | failure {f : Failure} {name : String} {entries : List String} {payload : ByteArray} :
      handler i = .error f → i.id ≠ "" → Names name i.id → Trace.Lists (trace f) entries →
      ErrorReport.Tells payload f entries →
      Due c trace handler i
        (posting c ("/2018-06-01/runtime/invocation/" ++ name ++ "/error") (failureFields f) payload)
        202

/-- The failures of a poll that a run should end with: there is no next invocation, or it lacks a
field. -/
def Concludes (f : Failure) : Prop :=
  ∃ e, f.error? = some e ∧ (IsNextInvocation e ∨ ∃ field, e.problem = .missingMetadata field)

/-- How a run ends: with a poll that fails, with a failure that cannot be reported, or with a report
that fails. -/
inductive Ends (c : Client) (trace : Failure → List Frame) (handler : Handler)
    (attempts : List Attempt) : Except Failure Unit → Prop where
  | done {k : Nat} {a : Attempt} {f : Failure} : attempts.length = 2 * k + 1 →
      attempts[2 * k]? = some a → Polls c a.outcome (.error f) → Concludes f →
      Ends c trace handler attempts (.ok ())
  | poll {k : Nat} {a : Attempt} {f : Failure} : attempts.length = 2 * k + 1 →
      attempts[2 * k]? = some a → Polls c a.outcome (.error f) → ¬ Concludes f →
      Ends c trace handler attempts (.error f)
  | unnamed {k : Nat} {a : Attempt} {i : Invocation} {f : Failure} : attempts.length = 2 * k + 1 →
      attempts[2 * k]? = some a → Polls c a.outcome (.ok i) → handler i = .error f → i.id = "" →
      Ends c trace handler attempts (.error .requestIdRequired)
  | report {k : Nat} {a b : Attempt} {i : Invocation} {status : Int} {f : Failure} :
      attempts.length = 2 * k + 2 → attempts[2 * k]? = some a → attempts[2 * k + 1]? = some b →
      Polls c a.outcome (.ok i) → Due c trace handler i b.request status →
      ReportsTo "POST" (c.baseUrl ++ b.request.path) (some status) b.outcome (.error f) →
      Ends c trace handler attempts (.error f)

/-- What a run asks of its transport, in which order, and how it ends. -/
structure Obeys (c : Client) (trace : Failure → List Frame) (handler : Handler)
    (attempts : List Attempt) (result : Except Failure Unit) : Prop where
  begins : attempts ≠ []
  polls : ∀ (k : Nat) (a : Attempt), attempts[2 * k]? = some a → a.request = asking c
  reports : ∀ (k : Nat) (b : Attempt), attempts[2 * k + 1]? = some b →
    ∃ a i status, attempts[2 * k]? = some a ∧ Polls c a.outcome (.ok i) ∧
      Due c trace handler i b.request status
  goesOn : ∀ k : Nat, 2 * k + 2 < attempts.length →
    ∃ a b i status, attempts[2 * k]? = some a ∧ attempts[2 * k + 1]? = some b ∧
      Polls c a.outcome (.ok i) ∧ Due c trace handler i b.request status ∧
      Accepts status b.outcome
  ends : Ends c trace handler attempts result

/-- A report of a handler that could not be loaded. -/
inductive TellsOfInit (c : Client) (trace : Failure → List Frame) (f : Failure) :
    Request → Prop where
  | told {entries : List String} {payload : ByteArray} : Trace.Lists (trace f) entries →
      ErrorReport.Tells payload f entries →
      TellsOfInit c trace f
        (posting c "/2018-06-01/runtime/init/error" (failureFields f) payload)

/-- Only that report is sent. What could not be loaded is the result once it has been accepted. -/
inductive GivesUp (c : Client) (trace : Failure → List Frame) (f : Failure) :
    List Attempt → Except Failure Unit → Prop where
  | accepted {r : Request} {o : Outcome} : TellsOfInit c trace f r → Accepts 202 o →
      GivesUp c trace f [⟨r, o⟩] (.error f)
  | failed {r : Request} {o : Outcome} {e : Failure} : TellsOfInit c trace f r →
      ReportsTo "POST" (c.baseUrl ++ "/2018-06-01/runtime/init/error") (some 202) o (.error e) →
      GivesUp c trace f [⟨r, o⟩] (.error e)

section Runs

variable {α : Type} {turn : Turn α} {run : Run}

@[simp] theorem sent_after : (run.after turn).sent = turn.sent ++ run.sent := rfl

@[simp] theorem result_after : (run.after turn).result = run.result := rfl

@[simp] theorem sent_stop : (stop f t).sent = [] := by
  unfold stop
  split <;> rfl

@[simp] theorem result_stop : (stop f t).result = if endsRun f then .ok () else .error f := by
  unfold stop
  split <;> rfl

end Runs

section Answers

theorem due_answer {payload : ByteArray} (h : handler i = .ok payload) :
    Due c trace handler i (c.post (Path.response i.id) [] payload) 200 := by
  rw [Path.response_eq]
  exact .answer h (names_encode i.id)

theorem due_failure (h : handler i = .error f) (hn : i.id ≠ "") :
    Due c trace handler i
      (c.postError (Path.error i.id) (.ofFailure f (trace f) (some i.id))) 202 := by
  rw [postError, errorFields_ofFailure, Path.error_eq]
  exact .failure h hn (names_encode i.id) (Trace.lists_iff.mpr rfl)
    (ErrorReport.tells_payload f (trace f) (some i.id))

/-- An answer is one report that is due, and comes to what that comes to. -/
structure Makes (c : Client) (t : Transport) (r : Request) (status : Int) (answered : Turn Unit) :
    Prop where
  result : answered.result = ((c.expecting r status []).settle (t.execute r).outcome).result
  sent : answered.sent = (t.execute r).sent
  transport : answered.transport = (t.execute r).transport

/-- Either a report is due, or the handler failed on an invocation without a name. -/
theorem answer_due_or_unnamed (c : Client) (registry : Registry) (trace : Failure → List Frame)
    (handler : Handler) (i : Invocation) (t : Transport) :
    (∃ r status, Due c trace handler i r status ∧
      Makes c t r status (answer c registry trace handler i t)) ∨
    ∃ f, handler i = .error f ∧ i.id = "" ∧
      answer c registry trace handler i t =
        { result := .error .requestIdRequired, transport := t } := by
  cases h : handler i with
  | ok payload =>
    refine .inl ⟨_, _, due_answer h, ?_⟩
    simp only [answer, h]
    exact ⟨rfl, rfl, rfl⟩
  | error f =>
    by_cases hn : i.id = ""
    · refine .inr ⟨f, rfl, hn, ?_⟩
      have hr : (ErrorReport.ofFailure f (trace f) (some i.id)).requestId = some "" := by simp [hn]
      simp only [answer, h, reportError_of_unnamed (.inr hr)]
      rfl
    · refine .inl ⟨_, _, due_failure h hn, ?_⟩
      simp only [answer, h, reportError_of_named (ErrorReport.requestId_ofFailure ..) hn]
      exact ⟨rfl, rfl, rfl⟩

theorem Due.method {r : Request} {status : Int} (h : Due c trace handler i r status) :
    r.method = "POST" := by
  cases h <;> rfl

end Answers

section Steps

variable {polled : Turn Invocation} {answered : Turn Unit}

theorem serve_of_poll_error (hp : c.carryOut registry t c.poll = polled)
    (hf : polled.result = .error f) :
    serve c registry trace handler t = .after polled (stop f polled.transport) := by
  subst hp
  rw [serve]
  split <;> simp_all

theorem serve_of_answer_error (hp : c.carryOut registry t c.poll = polled)
    (hi : polled.result = .ok i)
    (ha : answer c registry trace handler i polled.transport = answered)
    (hf : answered.result = .error f) :
    serve c registry trace handler t =
      .after polled
        (.after answered { result := .error f, transport := some answered.transport }) := by
  subst hp ha
  rw [serve]
  split <;> simp_all

theorem serve_of_answer_ok (hp : c.carryOut registry t c.poll = polled)
    (hi : polled.result = .ok i)
    (ha : answer c registry trace handler i polled.transport = answered)
    (hf : answered.result = .ok ()) :
    serve c registry trace handler t =
      .after polled (.after answered (serve c registry trace handler answered.transport)) := by
  subst hp ha
  rw [serve]
  split <;> simp_all

end Steps

namespace Obeys

variable {a b : Attempt} {attempts : List Attempt} {status : Int} {result : Except Failure Unit}

theorem single (ha : a.request = asking c) (he : Ends c trace handler [a] result) :
    Obeys c trace handler [a] result where
  begins := by simp
  polls := by
    rintro (_ | k) x h
    · obtain rfl : a = x := by simpa using h
      exact ha
    · simp [Nat.mul_succ] at h
  reports := by simp
  goesOn := by simp
  ends := he

theorem pair (ha : a.request = asking c) (hi : Polls c a.outcome (.ok i))
    (hd : Due c trace handler i b.request status) (he : Ends c trace handler [a, b] result) :
    Obeys c trace handler [a, b] result where
  begins := by simp
  polls := by
    rintro (_ | k) x h
    · obtain rfl : a = x := by simpa using h
      exact ha
    · simp [Nat.mul_succ] at h
  reports := by
    rintro (_ | k) x h
    · obtain rfl : b = x := by simpa using h
      exact ⟨a, i, status, rfl, hi, hd⟩
    · simp [Nat.mul_succ] at h
  goesOn := by
    intro k hk
    simp only [List.length_cons, List.length_nil] at hk
    omega
  ends := he

/-- An accepted report may be followed by what obeys the protocol from the start. -/
theorem round (ha : a.request = asking c) (hi : Polls c a.outcome (.ok i))
    (hd : Due c trace handler i b.request status) (hs : Accepts status b.outcome)
    (h : Obeys c trace handler attempts result) :
    Obeys c trace handler (a :: b :: attempts) result where
  begins := by simp
  polls := by
    rintro (_ | k) x hx
    · obtain rfl : a = x := by simpa using hx
      exact ha
    · exact h.polls k x hx
  reports := by
    rintro (_ | k) x hx
    · obtain rfl : b = x := by simpa using hx
      exact ⟨a, i, status, rfl, hi, hd⟩
    · exact h.reports k x hx
  goesOn := by
    rintro (_ | k) hk
    · exact ⟨a, b, i, status, rfl, rfl, hi, hd, hs⟩
    · have hk' : 2 * k + 2 < attempts.length := by
        simp only [List.length_cons] at hk
        omega
      exact h.goesOn k hk'
  ends := by
    cases h.ends with
    | @done k x f hl hx hp hf => exact .done (k := k + 1) (by simp [hl]; omega) hx hp hf
    | @poll k x f hl hx hp hf => exact .poll (k := k + 1) (by simp [hl]; omega) hx hp hf
    | @unnamed k x j f hl hx hj hf hn =>
      exact .unnamed (k := k + 1) (by simp [hl]; omega) hx hj hf hn
    | @report k x y j status f hl hx hy hj hd hf =>
      exact .report (k := k + 1) (by simp [hl]; omega) hx hy hj hd hf

end Obeys

theorem endsRun_iff : endsRun f = true ↔ Concludes f := by
  unfold endsRun Concludes IsNextInvocation
  cases f.error? with
  | none => simp
  | some e =>
    obtain ⟨problem, context⟩ := e
    cases problem <;> simp

theorem ends_of_poll_error {a : Attempt} (h : Polls c a.outcome (.error f)) :
    Ends c trace handler [a] (if endsRun f then .ok () else .error f) := by
  by_cases he : endsRun f = true
  · rw [if_pos he]
    exact .done (k := 0) rfl rfl h (endsRun_iff.mp he)
  · rw [if_neg he]
    exact .poll (k := 0) rfl rfl h fun hf => he (endsRun_iff.mpr hf)

theorem carries_poll {attempts : List Attempt} {sent : List Sent} {u : Transport}
    (h : (c.carryOut registry t c.poll).transport.Carries attempts sent u) :
    t.Carries (t.attempt (asking c) :: attempts)
      ((c.carryOut registry t c.poll).sent ++ sent) u :=
  .cons h

theorem polls_attempt {result : Except Failure Invocation}
    (h : (c.carryOut registry t c.poll).result = result) :
    Polls c (t.attempt (asking c)).outcome result :=
  settle_poll_eq_iff.mp h

theorem reportsTo_of_makes {r : Request} {status : Int} {answered : Turn Unit}
    (hr : r.method = "POST") (hm : Makes c t r status answered) (hf : answered.result = .error f) :
    ReportsTo "POST" (c.baseUrl ++ r.path) (some status) (t.attempt r).outcome (.error f) := by
  have hs := c.reportsTo_expecting r status [] (t.execute r).outcome
  rw [← hm.result, hf, hr] at hs
  exact hs

theorem serve_obeys (c : Client) (registry : Registry) (trace : Failure → List Frame)
    (handler : Handler) (t : Transport) :
    ∃ attempts u, t.Carries attempts (serve c registry trace handler t).sent u ∧
      Obeys c trace handler attempts (serve c registry trace handler t).result := by
  induction t using serve.induct c registry trace handler with
  | case1 t polled f hf =>
    rw [serve_of_poll_error rfl hf, sent_after, sent_stop, result_after, result_stop]
    exact ⟨_, _, carries_poll .nil, .single rfl (ends_of_poll_error (polls_attempt hf))⟩
  | case2 t polled i hi answered f hf =>
    rw [serve_of_answer_error rfl hi rfl hf, sent_after, sent_after, result_after, result_after]
    have hy := polls_attempt hi
    rcases answer_due_or_unnamed c registry trace handler i polled.transport with
      ⟨r, status, hd, hm⟩ | ⟨f', hf', hn, ha⟩
    · rw [hm.sent]
      refine ⟨_, _, carries_poll (.cons (r := r) .nil), .pair rfl hy hd ?_⟩
      exact .report (k := 0) rfl rfl rfl hy hd (reportsTo_of_makes hd.method hm hf)
    · obtain rfl : Failure.requestIdRequired = f := by
        have hf : (answer c registry trace handler i polled.transport).result = .error f := hf
        simpa [ha] using hf
      rw [ha]
      exact ⟨_, _, carries_poll .nil, .single rfl (.unnamed (k := 0) rfl rfl hy hf' hn)⟩
  | case3 t polled i hi answered hf ih =>
    rw [serve_of_answer_ok rfl hi rfl hf, sent_after, sent_after, result_after, result_after]
    have hy := polls_attempt hi
    rcases answer_due_or_unnamed c registry trace handler i polled.transport with
      ⟨r, status, hd, hm⟩ | ⟨f', hf', hn, ha⟩
    · obtain ⟨attempts, u, hc, ho⟩ := ih
      have hacc : Accepts status (polled.transport.attempt r).outcome :=
        expecting_eq_ok_iff.mp (hm.result.symm.trans hf)
      rw [show answered.transport = _ from hm.transport] at hc ho
      rw [hm.sent, hm.transport]
      exact ⟨_, u, carries_poll (.cons hc), .round rfl hy hd hacc ho⟩
    · have hf : (answer c registry trace handler i polled.transport).result = .ok () := hf
      simp [ha] at hf

/-- An error is posted without its name, so one without a cause is told by its payload and type. -/
theorem postError_of_causeless {path : String} {report : ErrorReport}
    (h : report.errorCause = none) :
    c.postError path { payload := report.payload, errorType := report.errorType } =
      c.postError path report := by
  obtain ⟨payload, requestId, errorType, errorCause⟩ := report
  cases h
  rfl

def initReport (c : Client) (trace : Failure → List Frame) (f : Failure) : Request :=
  c.postError Path.initError (.ofFailure f (trace f) none)

theorem tellsOfInit_initReport (c : Client) (trace : Failure → List Frame) (f : Failure) :
    TellsOfInit c trace f (initReport c trace f) := by
  rw [initReport, postError, errorFields_ofFailure]
  exact .told (Trace.lists_iff.mpr rfl) (ErrorReport.tells_payload f (trace f) none)

theorem reportInitError_eq (c : Client) (trace : Failure → List Frame) (f : Failure) :
    c.reportInitError (ErrorReport.ofFailure f (trace f) none).payload
        (ErrorReport.ofFailure f (trace f) none).errorType =
      c.expecting (initReport c trace f) acceptedStatus [] := by
  have hc : (ErrorReport.ofFailure f (trace f) none).errorCause = none := rfl
  rw [reportInitError, postError_of_causeless hc, initReport]

theorem giveUp_obeys (c : Client) (registry : Registry) (trace : Failure → List Frame) (f : Failure)
    (t : Transport) :
    ∃ attempts u, t.Carries attempts (giveUp c registry trace f t).sent u ∧
      GivesUp c trace f attempts (giveUp c registry trace f t).result := by
  have hc := Transport.Carries.single t (initReport c trace f)
  have hi := tellsOfInit_initReport c trace f
  simp only [giveUp, reportInitError_eq]
  split
  · next e h =>
    rw [sent_after, List.append_nil]
    have hr : ((c.expecting (initReport c trace f) acceptedStatus []).settle
        (t.execute (initReport c trace f)).outcome).result = .error e := h
    have hs := c.reportsTo_expecting (initReport c trace f) acceptedStatus []
      (t.execute (initReport c trace f)).outcome
    rw [hr] at hs
    exact ⟨_, _, hc, .failed hi hs⟩
  · next h =>
    rw [sent_after, List.append_nil]
    exact ⟨_, _, hc, .accepted hi (expecting_eq_ok_iff.mp h)⟩

/-- A run obeys the protocol over every transport, whatever loading its handler has come to. An
injected transport is handed the attempted requests and nothing else, and its replies are their
outcomes. -/
theorem runLoaded_obeys (c : Client) (registry : Registry) (trace : Failure → List Frame)
    (loaded : Except Failure Handler) (t : Transport) :
    ∃ attempts u, t.Carries attempts (runLoaded c registry trace loaded t).sent u ∧
      (∀ replies, t = .injected replies →
        (runLoaded c registry trace loaded t).sent =
            attempts.map (fun a => Sent.direct a.request) ∧
          ∀ (k : Nat) (a : Attempt), attempts[k]? = some a →
            a.outcome = replies[k]?.getD Transport.exhausted) ∧
      match loaded with
      | .ok handler =>
        Obeys c trace handler attempts (runLoaded c registry trace loaded t).result
      | .error f => GivesUp c trace f attempts (runLoaded c registry trace loaded t).result := by
  have hi : ∀ {attempts : List Attempt} {sent : List Sent} {u : Transport},
      t.Carries attempts sent u → ∀ replies, t = .injected replies →
        sent = attempts.map (fun a => Sent.direct a.request) ∧
          ∀ (k : Nat) (a : Attempt), attempts[k]? = some a →
            a.outcome = replies[k]?.getD Transport.exhausted := by
    rintro attempts sent u h replies rfl
    obtain ⟨hs, -, ho⟩ := h.of_injected
    exact ⟨hs, ho⟩
  cases loaded with
  | ok handler =>
    obtain ⟨attempts, u, hc, ho⟩ := serve_obeys c registry trace handler t
    exact ⟨attempts, u, hc, hi hc, ho⟩
  | error f =>
    obtain ⟨attempts, u, hc, ho⟩ := giveUp_obeys c registry trace f t
    exact ⟨attempts, u, hc, hi hc, ho⟩

end Loop

end InvocationClient
